import CuratorKeeper.Decimal.Layout

/-! # Numbers

A number is whole, of any size, or a floating-point one. The two stay apart when they are written
and when they are computed with, and are compared by what they exactly amount to.
-/
namespace CuratorKeeper

inductive Number
  | whole (value : Int)
  | real (value : Float)
  deriving DecidableEq

namespace Number

/-- Numbers are written with the fewest digits, positionally from `0.0001` to below `10 ^ 16`. -/
def layout : Decimal.Layout where
  positionalFrom := -4
  positionalBelow := 16
  exponentWidth := 2
  infinity := "inf"
  undefined := "nan"

def isZero : Number → Bool
  | .whole value => value == 0
  | .real value => value == 0.0

/-- The nearest floating-point number. A whole number beyond them all becomes infinite, where a
machine may fail. -/
def toFloat : Number → Float
  | .whole value => Float.ofInt value
  | .real value => value

/-- Whole numbers add exactly; otherwise both are floating-point numbers. -/
def add : Number → Number → Number
  | .whole m, .whole n => .whole (m + n)
  | m, n => .real (m.toFloat + n.toFloat)

/-- Whole numbers multiply exactly; otherwise both are floating-point numbers. -/
def mul : Number → Number → Number
  | .whole m, .whole n => .whole (m * n)
  | m, n => .real (m.toFloat * n.toFloat)

instance : Add Number := ⟨add⟩
instance : Mul Number := ⟨mul⟩

/-- The whole number that a number exactly is, if any. -/
def toInt? : Number → Option Int
  | .whole value => some value
  | .real value => (Decimal.Binary.ofFloat value).toInt?

/-- The whole number that a number amounts to, if a signed word of 64 bits holds it. The least of
these is not taken from a floating-point number, which may have been rounded to it. -/
def toWord? : Number → Option Int
  | .whole value => if -Int.pow 2 63 ≤ value ∧ value < Int.pow 2 63 then some value else none
  | .real value =>
    (Decimal.Binary.ofFloat value).toInt?.filter fun whole =>
      -Int.pow 2 63 < whole ∧ whole < Int.pow 2 63

def isBelowOne : Number → Bool
  | .whole value => value < 1
  | .real value => value < 1.0

/-- Two numbers are the same when they amount to the same. -/
def same : Number → Number → Bool
  | .whole m, .whole n => m == n
  | .whole m, .real y => (Decimal.Binary.ofFloat y).toInt? == some m
  | .real x, .whole n => (Decimal.Binary.ofFloat x).toInt? == some n
  | .real x, .real y => x == y

/-- The text that reads back as the number. -/
def text : Number → String
  | .whole value => toString value
  | .real value => layout.shortestText value

def fixedText (places : Nat) (number : Number) : String :=
  layout.fixedText places number.toFloat

end Number
end CuratorKeeper
