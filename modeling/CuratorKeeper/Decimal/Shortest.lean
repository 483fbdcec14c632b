import CuratorKeeper.Decimal.Binary

/-! # The shortest decimal that reads back

The reals that round to a floating-point number form an interval around it. On the decimal grids
of one, two, up to seventeen digits the first grid with a point in that interval gives the
shortest decimal; of two such points the nearer is taken, and the even one when they are as near.
-/
namespace CuratorKeeper.Decimal

/-- The number `digits * 10 ^ exponent`. -/
structure Digits where
  digits : Nat
  exponent : Int
  deriving DecidableEq

/-- How many decimal digits a number is written with. -/
def digitCount (number : Nat) : Nat := (Nat.toDigits 10 number).length

/-- Move the zeros at the end of the digits into the exponent, at most so many of them. -/
def Digits.stripZeros : Nat → Digits → Digits
  | 0, decimal => decimal
  | fuel + 1, decimal =>
    if decimal.digits % 10 = 0 ∧ decimal.digits ≠ 0 then
      stripZeros fuel ⟨decimal.digits / 10, decimal.exponent + 1⟩
    else decimal

/-- The interval of reals that round to a positive number, scaled to natural numbers. -/
structure Rounding where
  lower : Nat
  middle : Nat
  upper : Nat
  /-- The ends round to the number too. -/
  closed : Bool

/-- All numbers are scaled by `2 ^ 1076 * 10 ^ 400`, so that the ends are whole numbers. -/
def Rounding.of (significand shift : Nat) : Rounding where
  lower :=
    (4 * significand - if significand = Nat.pow 2 52 ∧ shift ≠ 0 then 1 else 2) *
      Nat.pow 2 shift * Nat.pow 10 400
  middle := 4 * significand * Nat.pow 2 shift * Nat.pow 10 400
  upper := (4 * significand + 2) * Nat.pow 2 shift * Nat.pow 10 400
  closed := significand % 2 == 0

/-- A scaled number lies in the interval. -/
def Rounding.admits (interval : Rounding) (scaled : Nat) : Bool :=
  if interval.closed then interval.lower ≤ scaled && scaled ≤ interval.upper
  else interval.lower < scaled && scaled < interval.upper

/-- The point of the grid of so many digits that reads back, if one of the two neighbours does. -/
def Rounding.onGrid? (interval : Rounding) (places : Nat) : Option Digits :=
  let whole := interval.middle / Nat.pow 2 1076
  let dropped := digitCount whole - places
  let below := whole / Nat.pow 10 dropped
  let lowPoint := below * Nat.pow 10 dropped * Nat.pow 2 1076
  let highPoint := (below + 1) * Nat.pow 10 dropped * Nat.pow 2 1076
  let lowDistance := interval.middle - lowPoint
  let highDistance := highPoint - interval.middle
  let exponent : Int := dropped - 400
  match interval.admits lowPoint, interval.admits highPoint with
  | false, false => none
  | true, false => some ⟨below, exponent⟩
  | false, true => some ⟨below + 1, exponent⟩
  | true, true =>
    if lowDistance < highDistance ∨ (lowDistance = highDistance ∧ below % 2 = 0) then
      some ⟨below, exponent⟩
    else some ⟨below + 1, exponent⟩

/-- The shortest decimal that reads back as `significand * 2 ^ shift / 2 ^ 1074`. -/
def shortest (significand shift : Nat) : Digits :=
  if significand = 0 then ⟨0, 0⟩
  else
    let interval := Rounding.of significand shift
    let found := (List.range 17).findSome? fun spare => interval.onGrid? (spare + 1)
    Digits.stripZeros 400 (found.getD ⟨interval.middle / Nat.pow 2 1076, -400⟩)

end CuratorKeeper.Decimal
