import CuratorKeeper.Text.Digit
import CuratorKeeper.Decimal.Layout

/-! # Numerals

How a text is read as a whole number or as a floating-point one. Blanks may surround a numeral,
digits of any script count, and an underscore may stand between two digits.
-/
namespace CuratorKeeper.Text

/-- Read digits from the front; an underscore is passed over only between two digits. -/
def scanDigits : List Char → List Nat × List Char
  | [] => ([], [])
  | c :: rest =>
    match digit? c with
    | none => ([], c :: rest)
    | some digit =>
      match rest with
      | '_' :: next :: others =>
        if (digit? next).isSome then
          let scanned := scanDigits (next :: others)
          (digit :: scanned.1, scanned.2)
        else ([digit], rest)
      | [] => ([digit], [])
      | next :: others =>
        let scanned := scanDigits (next :: others)
        (digit :: scanned.1, scanned.2)

/-- The number that a row of decimal digits writes. -/
def digitsValue (digits : List Nat) : Nat := digits.foldl (fun value digit => 10 * value + digit) 0

/-- Split a sign from the front; true means that the number is negative. -/
def splitSign : List Char → Bool × List Char
  | '-' :: rest => (true, rest)
  | '+' :: rest => (false, rest)
  | rest => (false, rest)

/-- Why a text is no whole number. -/
inductive WholeFault
  | malformed
  /-- The numeral has more digits than are read. -/
  | tooLong (digits : Nat)
  deriving DecidableEq

/-- A whole number is read from at most so many digits. -/
def wholeDigitLimit : Nat := 4300

def readWhole (content : String) : Except WholeFault Int :=
  let (negative, body) := splitSign (trimBlanks content.toList)
  let (digits, rest) := scanDigits body
  if digits.isEmpty ∨ rest.head? = some '_' then .error .malformed
  else if wholeDigitLimit < digits.length then .error (.tooLong digits.length)
  else if !rest.isEmpty then .error .malformed
  else
    let magnitude : Int := digitsValue digits
    .ok (if negative then -magnitude else magnitude)

/-- Read the exponent of a numeral, which has to end there. -/
def readExponent? : List Char → Option Int
  | [] => some 0
  | mark :: rest =>
    if mark = 'e' ∨ mark = 'E' then
      let (negative, body) := splitSign rest
      let (digits, others) := scanDigits body
      if digits.isEmpty ∨ !others.isEmpty then none
      else
        let magnitude : Int := digitsValue digits
        some (if negative then -magnitude else magnitude)
    else none

/-- The part of a numeral before its exponent: digits, and how many of them are places. -/
def readMantissa? (body : List Char) : Option (List Nat × Nat × List Char) :=
  let (whole, rest) := scanDigits body
  match rest with
  | '.' :: others =>
    let (places, others) := scanDigits others
    if whole.isEmpty && places.isEmpty then none
    else some (whole ++ places, places.length, others)
  | others => if whole.isEmpty then none else some (whole, 0, others)

/-- Read a floating-point number, rounded to the nearest one. -/
def readReal? (content : String) : Option Float :=
  let (negative, body) := splitSign (trimBlanks content.toList)
  let lowered := String.ofList (body.map Char.toLower)
  let withSign (x : Float) : Float := if negative then -x else x
  if lowered = "inf" ∨ lowered = "infinity" then some (withSign (1.0 / 0.0))
  else if lowered = "nan" then some (0.0 / 0.0)
  else do
    let (digits, places, rest) ← readMantissa? body
    let exponent ← readExponent? rest
    return withSign (Decimal.nearestFloat ⟨digitsValue digits, exponent - places⟩)

end CuratorKeeper.Text
