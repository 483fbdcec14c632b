/-! # Base 64

Three bytes make four letters of an alphabet of 64; a last group of one or two bytes is filled up
with padding to four letters. Reading back accepts whole groups only.
-/
namespace CuratorKeeper.Base64

def letter (number : Nat) : Char :=
  if number < 26 then Char.ofNat (65 + number)
  else if number < 52 then Char.ofNat (71 + number)
  else if number < 62 then Char.ofNat (number - 4)
  else if number = 62 then '+'
  else '/'

def letterValue? (c : Char) : Option Nat :=
  if 65 ≤ c.toNat ∧ c.toNat ≤ 90 then some (c.toNat - 65)
  else if 97 ≤ c.toNat ∧ c.toNat ≤ 122 then some (c.toNat - 71)
  else if 48 ≤ c.toNat ∧ c.toNat ≤ 57 then some (c.toNat + 4)
  else if c = '+' then some 62
  else if c = '/' then some 63
  else none

def encodeBytes : List UInt8 → List Char
  | [] => []
  | [a] =>
    [letter (a.toNat / 4), letter (a.toNat % 4 * 16), '=', '=']
  | [a, b] =>
    [letter (a.toNat / 4), letter (a.toNat % 4 * 16 + b.toNat / 16), letter (b.toNat % 16 * 4), '=']
  | a :: b :: c :: rest =>
    letter (a.toNat / 4) :: letter (a.toNat % 4 * 16 + b.toNat / 16) ::
      letter (b.toNat % 16 * 4 + c.toNat / 64) :: letter (c.toNat % 64) :: encodeBytes rest

def encode (bytes : ByteArray) : String := String.ofList (encodeBytes bytes.data.toList)

/-- The bytes of some letters, in whole groups, padded at the end only. -/
def decodeLetters? : List Char → Option (List UInt8)
  | [] => some []
  | [p, q, '=', '='] => do
    let p ← letterValue? p
    let q ← letterValue? q
    if q % 16 = 0 then some [UInt8.ofNat (p * 4 + q / 16)] else none
  | [p, q, r, '='] => do
    let p ← letterValue? p
    let q ← letterValue? q
    let r ← letterValue? r
    if r % 4 = 0 then
      some [UInt8.ofNat (p * 4 + q / 16), UInt8.ofNat (q % 16 * 16 + r / 4)]
    else none
  | p :: q :: r :: s :: rest => do
    let p ← letterValue? p
    let q ← letterValue? q
    let r ← letterValue? r
    let s ← letterValue? s
    let others ← decodeLetters? rest
    some (UInt8.ofNat (p * 4 + q / 16) :: UInt8.ofNat (q % 16 * 16 + r / 4) ::
      UInt8.ofNat (r % 4 * 64 + s) :: others)
  | _ => none

def decode? (content : String) : Option ByteArray :=
  (decodeLetters? content.toList).map fun bytes => ⟨bytes.toArray⟩

example : encodeBytes [77, 97] = ['T', 'W', 'E', '='] := by decide
example : decodeLetters? ['T', 'W', 'E', '='] = some [77, 97] := by decide

end CuratorKeeper.Base64
