import CuratorKeeper.Bytes.Base64
import Mathlib.Logic.Function.Basic

/-!
# Reading back base 64

Every letter stands for one number below 64 and padding for none.  So the bytes of
a text in base 64 are those that it was made of, and different bytes make different
texts.
-/

namespace CuratorKeeper.Base64

theorem letters_readable :
    ∀ number ∈ List.range 64, letterValue? (letter number) = some number ∧ letter number ≠ '=' := by
  decide

theorem letterValue?_letter {number : Nat} (small : number < 64) :
    letterValue? (letter number) = some number :=
  (letters_readable number (List.mem_range.mpr small)).1

theorem letter_ne_padding {number : Nat} (small : number < 64) : letter number ≠ '=' :=
  (letters_readable number (List.mem_range.mpr small)).2

/-- Three bytes are read back from the letters of the first, the second and the third six
bits and the last ones. -/
theorem decodeLetters?_full {first second third fourth : Nat} (hFirst : first < 64)
    (hSecond : second < 64) (hThird : third < 64) (hFourth : fourth < 64) (rest : List Char) :
    decodeLetters? (letter first :: letter second :: letter third :: letter fourth :: rest) =
      (decodeLetters? rest).map fun others =>
        UInt8.ofNat (first * 4 + second / 16) :: UInt8.ofNat (second % 16 * 16 + third / 4) ::
          UInt8.ofNat (third % 4 * 64 + fourth) :: others := by
  have full := letter_ne_padding hFourth
  rw [decodeLetters?]
  · simp only [letterValue?_letter hFirst, letterValue?_letter hSecond, letterValue?_letter hThird,
      letterValue?_letter hFourth]
    cases decodeLetters? rest <;> rfl
  · intro _ isPadding
    exact absurd isPadding full
  · intro isPadding
    exact absurd isPadding full

theorem decodeLetters?_one {first second : Nat} (hFirst : first < 64) (hSecond : second < 64)
    (unused : second % 16 = 0) :
    decodeLetters? [letter first, letter second, '=', '='] =
      some [UInt8.ofNat (first * 4 + second / 16)] := by
  rw [decodeLetters?, letterValue?_letter hFirst, letterValue?_letter hSecond]
  exact if_pos unused

theorem decodeLetters?_two {first second third : Nat} (hFirst : first < 64)
    (hSecond : second < 64) (hThird : third < 64) (unused : third % 4 = 0) :
    decodeLetters? [letter first, letter second, letter third, '='] =
      some [UInt8.ofNat (first * 4 + second / 16), UInt8.ofNat (second % 16 * 16 + third / 4)] := by
  rw [decodeLetters?, letterValue?_letter hFirst, letterValue?_letter hSecond,
    letterValue?_letter hThird]
  · exact if_pos unused
  · exact letter_ne_padding hThird

theorem ofNat_first (a : UInt8) {low : Nat} (small : low < 16) :
    UInt8.ofNat (a.toNat / 4 * 4 + (a.toNat % 4 * 16 + low) / 16) = a := by
  have whole : a.toNat / 4 * 4 + (a.toNat % 4 * 16 + low) / 16 = a.toNat := by omega
  rw [whole, UInt8.ofNat_toNat]

theorem ofNat_second (b : UInt8) (high : Nat) {low : Nat} (small : low < 4) :
    UInt8.ofNat ((high * 16 + b.toNat / 16) % 16 * 16 + (b.toNat % 16 * 4 + low) / 4) = b := by
  have bound := b.toNat_lt
  have whole : (high * 16 + b.toNat / 16) % 16 * 16 + (b.toNat % 16 * 4 + low) / 4 = b.toNat := by
    omega
  rw [whole, UInt8.ofNat_toNat]

theorem ofNat_third (c : UInt8) (high : Nat) :
    UInt8.ofNat ((high * 4 + c.toNat / 64) % 4 * 64 + c.toNat % 64) = c := by
  have bound := c.toNat_lt
  have whole : (high * 4 + c.toNat / 64) % 4 * 64 + c.toNat % 64 = c.toNat := by omega
  rw [whole, UInt8.ofNat_toNat]

theorem decodeLetters?_encodeBytes (bytes : List UInt8) :
    decodeLetters? (encodeBytes bytes) = some bytes := by
  fun_induction encodeBytes bytes with
  | case1 => rfl
  | case2 a =>
      have bound := a.toNat_lt
      have first : UInt8.ofNat (a.toNat / 4 * 4 + a.toNat % 4 * 16 / 16) = a :=
        ofNat_first a (show 0 < 16 by omega)
      rw [decodeLetters?_one (by omega) (by omega) (by omega), first]
  | case3 a b =>
      have bound := a.toNat_lt
      have bound' := b.toNat_lt
      have second : UInt8.ofNat ((a.toNat % 4 * 16 + b.toNat / 16) % 16 * 16 +
          b.toNat % 16 * 4 / 4) = b := ofNat_second b _ (show 0 < 4 by omega)
      rw [decodeLetters?_two (by omega) (by omega) (by omega) (by omega),
        ofNat_first a (by omega), second]
  | case4 a b c rest ih =>
      have bound := a.toNat_lt
      have bound' := b.toNat_lt
      have bound'' := c.toNat_lt
      rw [decodeLetters?_full (by omega) (by omega) (by omega) (by omega), ih, Option.map_some,
        ofNat_first a (by omega), ofNat_second b _ (by omega), ofNat_third c]

@[simp]
theorem decode?_encode (bytes : ByteArray) : decode? (encode bytes) = some bytes := by
  rw [decode?, encode, String.toList_ofList, decodeLetters?_encodeBytes]
  rfl

theorem encode_injective : Function.Injective encode := by
  intro bytes others same
  have read := decode?_encode bytes
  rw [same, decode?_encode] at read
  exact (Option.some.inj read).symm

end CuratorKeeper.Base64
