import CuratorKeeper.Decimal.Shortest

/-! # Decimal texts of floating-point numbers

Two forms: the shortest one, laid out positionally or with an exponent, and the one with a fixed
number of places, rounded from the exact value.
-/
namespace CuratorKeeper.Decimal

/-- The choices that a shortest decimal text leaves open. -/
structure Layout where
  /-- The least decimal exponent that is written positionally. -/
  positionalFrom : Int
  /-- The first decimal exponent above those written positionally. -/
  positionalBelow : Int
  /-- The least number of digits of an exponent. -/
  exponentWidth : Nat
  infinity : String
  undefined : String

def signed (negative : Bool) (content : String) : String :=
  if negative then "-" ++ content else content

/-- Digits of a number, filled up with zeros in front to a width. -/
def padded (width number : Nat) : List Char :=
  let digits := Nat.toDigits 10 number
  List.replicate (width - digits.length) '0' ++ digits

/-- The text of a decimal without sign: positional with at least one place, or with an exponent. -/
def Layout.write (layout : Layout) (decimal : Digits) : String :=
  let digits := Nat.toDigits 10 decimal.digits
  let exponent : Int := decimal.exponent + digits.length - 1
  if layout.positionalFrom ≤ exponent ∧ exponent < layout.positionalBelow then
    if exponent < 0 then
      String.ofList ('0' :: '.' :: List.replicate (-exponent - 1).toNat '0' ++ digits)
    else
      let point := exponent.toNat + 1
      let whole := digits.take point ++ List.replicate (point - digits.length) '0'
      let places := digits.drop point
      String.ofList (whole ++ '.' :: if places.isEmpty then ['0'] else places)
  else
    let lead := digits.take 1
    let places := digits.drop 1
    let mantissa := if places.isEmpty then lead else lead ++ '.' :: places
    let mark := if exponent < 0 then '-' else '+'
    String.ofList (mantissa ++ 'e' :: mark :: padded layout.exponentWidth exponent.natAbs)

def Layout.shortestText (layout : Layout) (x : Float) : String :=
  match Binary.ofFloat x with
  | .finite negative significand shift =>
    signed negative (layout.write (shortest significand shift))
  | .infinite negative => signed negative layout.infinity
  | .undefined => layout.undefined

/-- A quotient rounded to the nearest whole number, a half to the even neighbour. -/
def roundHalfEven (numerator denominator : Nat) : Nat :=
  let quotient := numerator / denominator
  let rest := numerator % denominator
  if 2 * rest < denominator then quotient
  else if denominator < 2 * rest then quotient + 1
  else if quotient % 2 = 0 then quotient
  else quotient + 1

/-- The text with so many places, rounded from the exact value. -/
def Layout.fixedText (layout : Layout) (places : Nat) (x : Float) : String :=
  match Binary.ofFloat x with
  | .finite negative significand shift =>
    let scaled := roundHalfEven (significand * Nat.pow 2 shift * Nat.pow 10 places) (Nat.pow 2 1074)
    let whole := Nat.toDigits 10 (scaled / Nat.pow 10 places)
    let rest := padded places (scaled % Nat.pow 10 places)
    signed negative (String.ofList (whole ++ if places = 0 then [] else '.' :: rest))
  | .infinite negative => signed negative layout.infinity
  | .undefined => layout.undefined

/-- The floating-point number nearest to `digits * 10 ^ exponent`. -/
def nearestFloat (decimal : Digits) : Float :=
  let magnitude : Int := digitCount decimal.digits + decimal.exponent
  if decimal.digits = 0 ∨ magnitude < -400 then 0.0
  else if 400 < magnitude then 1.0 / 0.0
  else Float.ofScientific decimal.digits (decimal.exponent < 0) decimal.exponent.natAbs

end CuratorKeeper.Decimal
