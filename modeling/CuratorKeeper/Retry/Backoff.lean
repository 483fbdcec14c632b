import CuratorKeeper.Number

/-! # Pauses between tries

A budget of tries and the pauses between them, which grow by a factor and carry some jitter.
-/
namespace CuratorKeeper

/-- How often to try, and how long to pause in between. -/
structure Backoff where
  /-- The budget of tries; there is always at least one. -/
  steps : Int := 5
  delay : Number := .real 0.01
  factor : Number := .real 2.0
  jitter : Number := .real 0.1

namespace Backoff

/-- How many pauses the budget allows. -/
def pauseCount (backoff : Backoff) : Nat := (backoff.steps - 1).toNat

/-- The pause for a delay and a draw of the random source. -/
def pause (backoff : Backoff) (delay : Number) (draw : Float) : Number :=
  delay + delay * backoff.jitter * .real draw

/-- So many pauses from a delay on, each with its own draw; draws past the end are zero. -/
def pausesFrom (backoff : Backoff) : Nat → Number → List Float → List Number
  | 0, _, _ => []
  | count + 1, delay, draws =>
    backoff.pause delay (draws.headD 0.0) ::
      pausesFrom backoff count (delay * backoff.factor) draws.tail

def pauses (backoff : Backoff) (draws : List Float) : List Number :=
  backoff.pausesFrom backoff.pauseCount backoff.delay draws

end Backoff
end CuratorKeeper
