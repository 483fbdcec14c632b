/-! # Floating-point numbers as exact fractions

A finite floating-point number is a whole significand times a power of two. Over the common
denominator `2 ^ 1074` both the significand and the shift are natural numbers, so that every
question about its decimal form becomes one about natural numbers.
-/
namespace CuratorKeeper.Decimal

/-- What a floating-point number stands for. -/
inductive Binary
  /-- The number `significand * 2 ^ shift / 2 ^ 1074`, negated if `negative`. -/
  | finite (negative : Bool) (significand shift : Nat)
  | infinite (negative : Bool)
  | undefined
  deriving DecidableEq

namespace Binary

/-- Take the stored fields of a floating-point number apart. -/
def ofFloat (x : Float) : Binary :=
  let bits := x.toBits.toNat
  let negative := bits / Nat.pow 2 63 == 1
  let biased := bits / Nat.pow 2 52 % Nat.pow 2 11
  let fraction := bits % Nat.pow 2 52
  if biased = 2047 then
    if fraction = 0 then .infinite negative else .undefined
  else if biased = 0 then .finite negative fraction 0
  else .finite negative (fraction + Nat.pow 2 52) (biased - 1)

/-- The whole number that a floating-point number is exactly, if it is one. -/
def toInt? : Binary → Option Int
  | .finite negative significand shift =>
    let scaled := significand * Nat.pow 2 shift
    if scaled % Nat.pow 2 1074 = 0 then
      let magnitude : Int := (scaled / Nat.pow 2 1074 : Nat)
      some (if negative then -magnitude else magnitude)
    else none
  | .infinite _ => none
  | .undefined => none

example : (ofFloat 3.0).toInt? = some 3 := by decide +kernel
example : (ofFloat (-0.5)).toInt? = none := by decide +kernel

end Binary
end CuratorKeeper.Decimal
