import CuratorKeeper.Program.Basic
import CuratorKeeper.Retry.Budget

/-! # Trying again on conflicts

Every read-modify-write is one try: it reads again, computes its change again and submits it with
the version it read. A stale version makes the next try, after a pause, until the budget is spent.
Whatever a try has to tell the next one is handed over by it.
-/
namespace CuratorKeeper

/-- How a try ends: settled, or with a stale version and what the next try starts from. -/
inductive Attempt (σ α : Type) : Type
  | settled (value : α)
  | stale (conflict : StoreFault) (next : σ)

namespace Attempt

variable {σ α : Type}

/-- A program as a try: a conflict in it makes the try stale. -/
def ofProgram (next : σ) (program : Program (Attempt σ α)) : Program (Attempt σ α) :=
  program.catchStore.bind fun
    | .ok result => .done result
    | .error fault =>
      if fault.refusal = .conflict then .done (.stale fault next) else .fail (.store fault)

end Attempt

variable {σ α : Type}

def noteRetry (backoff : Backoff) (tries : Nat) (pause : Number) (conflict : StoreFault) :
    Program Unit :=
  .note .debug .retry
    ("Conflict on attempt " ++ toString tries ++ "/" ++ toString backoff.steps ++
      ", retrying in " ++ pause.fixedText 3 ++ "s: " ++ conflict.message)

def noteExhausted (tries : Nat) (conflict : StoreFault) : Program Unit :=
  .note .warning .retry
    ("Conflict persisted after " ++ toString tries ++ " attempts: " ++ conflict.message)

/-- Try with so many pauses left, from the given count of tries, delay and start. A flaw of the
budget shows at the conflict after which it matters. -/
def retryFrom (budget : Budget) (attempt : σ → Program (Attempt σ α)) :
    Nat → Nat → Number → σ → Program α
  | 0, tries, _, start => do
    match ← attempt start with
    | .settled value => return value
    | .stale conflict _ =>
      budget.check tries 0
      noteExhausted tries conflict
      .fail (.store conflict)
  | left + 1, tries, delay, start => do
    match ← attempt start with
    | .settled value => return value
    | .stale conflict next =>
      budget.check tries (left + 1)
      let draw ← .effect .draw
      let pause := budget.backoff.pause delay draw
      noteRetry budget.backoff tries pause conflict
      .effect (.pause pause)
      retryFrom budget attempt left (tries + 1) (delay * budget.backoff.factor) next

/-- Try until settled or until the budget is spent. -/
def retry (budget : Budget) (attempt : σ → Program (Attempt σ α)) (start : σ) : Program α :=
  retryFrom budget attempt budget.backoff.pauseCount 1 budget.backoff.delay start

end CuratorKeeper
