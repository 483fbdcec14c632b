import CuratorKeeper.Number
import Mathlib.Tactic.Linarith
import Mathlib.Tactic.Ring

/-!
# What numbers amount to

Numbers are compared by what they amount to.  A finite one amounts to a whole
multiple of the least positive floating-point number, so that two numbers are
the same exactly when they are worth the same multiple, or are infinite to the
same side.  Being the same is therefore transitive, and whatever is no number is
not the same as anything.
-/

namespace CuratorKeeper

open Float.Model Float.Model.UnpackedFloat

/-- What a number amounts to: a multiple of `1 / 2 ^ 1074`, or more or less than
any number. -/
inductive Worth
  | units (count : Int)
  | infinite (negative : Bool)

def Worth.one : Nat := Nat.pow 2 1074

theorem Worth.one_pos : 0 < Worth.one := by decide +kernel

namespace Decimal.Binary

/-- What a binary number amounts to, if it is a number. -/
def worth : Binary → Option Worth
  | .finite negative significand shift =>
    let count : Int := (significand * Nat.pow 2 shift : Nat)
    some (.units (if negative then -count else count))
  | .infinite negative => some (.infinite negative)
  | .undefined => none

/-- Significands are as large as they can be, unless the shift is the least. -/
def Canonical : Binary → Prop
  | .finite _ significand shift =>
    significand < 2 ^ 53 ∧ (shift = 0 ∨ 2 ^ 52 ≤ significand)
  | _ => True

theorem canonical_ofFloat (x : Float) : (ofFloat x).Canonical := by
  have small := Nat.mod_lt x.toBits.toNat (show 0 < Nat.pow 2 52 by decide)
  have limit : Nat.pow 2 52 = 2 ^ 52 := rfl
  simp only [ofFloat]
  split
  next => split <;> trivial
  next =>
    split
    next => exact ⟨by omega, .inl rfl⟩
    next => exact ⟨by omega, .inr (by omega)⟩

/-- A multiple has one canonical form with a significand that is not zero. -/
theorem eq_of_units {significand shift other further : Nat}
    (canonical : significand < 2 ^ 53 ∧ (shift = 0 ∨ 2 ^ 52 ≤ significand))
    (canonical' : other < 2 ^ 53 ∧ (further = 0 ∨ 2 ^ 52 ≤ other))
    (equal : significand * 2 ^ shift = other * 2 ^ further) (less : shift ≤ further) :
    significand = other ∧ shift = further ∨ significand = 0 ∧ other = 0 := by
  obtain ⟨more, rfl⟩ := Nat.exists_eq_add_of_le less
  have cancelled : significand = other * 2 ^ more := by
    refine Nat.eq_of_mul_eq_mul_right (Nat.two_pow_pos shift) ?_
    rw [equal, Nat.pow_add]
    ring
  cases more with
  | zero => exact .inl ⟨by simpa using cancelled, rfl⟩
  | succ more =>
      -- Twice a significand of full length would be too long.
      rcases Nat.eq_zero_or_pos other with rfl | positive
      · exact .inr ⟨by simpa using cancelled, rfl⟩
      · have long : 2 ^ 52 ≤ other := canonical'.2.resolve_left (by omega)
        have twice : 2 * other ≤ significand := by
          rw [cancelled, Nat.pow_succ]
          nlinarith [Nat.two_pow_pos more]
        omega

def signOf (negative : Bool) : Sign := if negative then .negative else .positive

/-- A binary number as it is compared. -/
def unpacked : Binary → UnpackedFloat
  | .finite negative significand shift =>
    if positive : 0 < significand then
      .finite (signOf negative) significand (shift - 1074) positive
    else .zero (signOf negative)
  | .infinite negative => .infinity (signOf negative)
  | .undefined => .notANumber

section Fields

variable (bits : BitVec Format.binary64.numBits)

theorem toNat_unpackMantissa :
    (@unpackMantissa Format.binary64 bits).toNat = bits.toNat % Nat.pow 2 52 := by
  simp [unpackMantissa, BitVec.extractLsb_toNat]

theorem toNat_unpackExponent :
    (@unpackExponent Format.binary64 bits).toNat =
      bits.toNat / Nat.pow 2 52 % Nat.pow 2 11 := by
  simp [unpackExponent, BitVec.extractLsb_toNat, Nat.shiftRight_eq_div_pow]

theorem unpackMantissa_eq_iff (field : BitVec Format.binary64.mantissaBitsWithoutImplicit) :
    unpackMantissa bits = field ↔ bits.toNat % Nat.pow 2 52 = field.toNat := by
  rw [← BitVec.toNat_inj, toNat_unpackMantissa]

theorem unpackExponent_eq_iff (field : BitVec Format.binary64.exponentBits) :
    unpackExponent bits = field ↔ bits.toNat / Nat.pow 2 52 % Nat.pow 2 11 = field.toNat := by
  rw [← BitVec.toNat_inj, toNat_unpackExponent]

theorem ofBitVec_unpackSign :
    Sign.ofBitVec (@unpackSign Format.binary64 bits) =
      signOf (bits.toNat / Nat.pow 2 63 == 1) := by
  have wide : bits.toNat < 2 ^ 64 := bits.isLt
  have limit : Nat.pow 2 63 = 2 ^ 63 := rfl
  have sign : (@unpackSign Format.binary64 bits).toNat = bits.toNat / 2 ^ 63 := by
    have cut : (@unpackSign Format.binary64 bits).toNat = (bits.extractLsb 63 63).toNat := rfl
    have single : bits.toNat / 2 ^ 63 < 2 := by omega
    simpa [cut, BitVec.extractLsb_toNat, Nat.shiftRight_eq_div_pow] using single
  rw [limit]
  rcases Nat.lt_or_ge bits.toNat (2 ^ 63) with low | high
  · have zero : bits.toNat / 2 ^ 63 = 0 := by omega
    have positive : @unpackSign Format.binary64 bits = 0#1 :=
      BitVec.eq_of_toNat_eq (sign.trans zero)
    rw [Sign.ofBitVec, signOf, positive, zero]
    rfl
  · have one : bits.toNat / 2 ^ 63 = 1 := by omega
    have negative : @unpackSign Format.binary64 bits = 1#1 :=
      BitVec.eq_of_toNat_eq (sign.trans one)
    rw [Sign.ofBitVec, signOf, negative, one]
    rfl

/-- A normal number has one digit more than is stored. -/
theorem toNat_append_unpackMantissa :
    (1#1 ++ @unpackMantissa Format.binary64 bits).toNat =
      bits.toNat % Nat.pow 2 52 + Nat.pow 2 52 := by
  have stored := toNat_unpackMantissa bits
  have short : (@unpackMantissa Format.binary64 bits).toNat < 2 ^ 52 := by
    rw [stored]
    exact Nat.mod_lt _ (by decide)
  rw [BitVec.toNat_append, ← Nat.shiftLeft_add_eq_or_of_lt short, stored, Nat.add_comm]
  rfl

end Fields

theorem finite_congr {sign : Sign} {mantissa other : Nat} {exponent further : Int}
    (positive : 0 < mantissa) (positive' : 0 < other) (mantissas : mantissa = other)
    (exponents : exponent = further) :
    UnpackedFloat.finite sign mantissa exponent positive =
      .finite sign other further positive' := by
  subst mantissas exponents
  rfl

theorem unpacked_of_pos {negative : Bool} {significand shift : Nat} (positive : 0 < significand) :
    (finite negative significand shift).unpacked =
      .finite (signOf negative) significand (shift - 1074) positive := dif_pos positive

theorem unpacked_zero (negative : Bool) (shift : Nat) :
    (finite negative 0 shift).unpacked = .zero (signOf negative) := by
  rw [unpacked, dif_neg (Nat.lt_irrefl 0)]

theorem unpack_toModel (x : Float) : x.toModel.unpack = (ofFloat x).unpacked := by
  have mantissa := toNat_unpackMantissa x.toModel.toBits.toBitVec
  have exponent := toNat_unpackExponent x.toModel.toBits.toBitVec
  have sign := ofBitVec_unpackSign x.toModel.toBits.toBitVec
  have bits : x.toModel.toBits.toBitVec.toNat = x.toBits.toNat := rfl
  rw [bits] at mantissa exponent sign
  have isTop : @unpackExponent Format.binary64 x.toModel.toBits.toBitVec = -1#_ ↔
      x.toBits.toNat / Nat.pow 2 52 % Nat.pow 2 11 = 2047 := unpackExponent_eq_iff _ _
  have isBottom : @unpackExponent Format.binary64 x.toModel.toBits.toBitVec = 0#_ ↔
      x.toBits.toNat / Nat.pow 2 52 % Nat.pow 2 11 = 0 := unpackExponent_eq_iff _ _
  have isRound : @unpackMantissa Format.binary64 x.toModel.toBits.toBitVec = 0#_ ↔
      x.toBits.toNat % Nat.pow 2 52 = 0 := unpackMantissa_eq_iff _ _
  have bias : ((Format.binary64.exponentBias : Int) +
      Format.binary64.mantissaBitsWithoutImplicit) = 1075 := by decide
  rw [ofFloat]
  delta Float.Model.unpack UnpackedFloat.unpack
  dsimp only
  rw [sign, bias]
  -- Both sides tell the greatest exponent, the least one and all others apart.
  by_cases top : x.toBits.toNat / Nat.pow 2 52 % Nat.pow 2 11 = 2047
  · rw [if_pos (isTop.mpr top), if_pos top]
    by_cases round : x.toBits.toNat % Nat.pow 2 52 = 0
    · rw [if_pos (isRound.mpr round), if_pos round]
      rfl
    · rw [if_neg (isRound.not.mpr round), if_neg round]
      rfl
  · rw [if_neg (isTop.not.mpr top), if_neg top]
    by_cases bottom : x.toBits.toNat / Nat.pow 2 52 % Nat.pow 2 11 = 0
    · rw [if_pos (isBottom.mpr bottom), if_pos bottom]
      by_cases round : x.toBits.toNat % Nat.pow 2 52 = 0
      · rw [dif_pos (isRound.mpr round), round, unpacked_zero]
      · rw [dif_neg (isRound.not.mpr round), unpacked_of_pos (Nat.pos_of_ne_zero round)]
        exact finite_congr _ _ mantissa (by rw [exponent, bottom]; rfl)
    · have positive : 0 < x.toBits.toNat % Nat.pow 2 52 + Nat.pow 2 52 :=
        Nat.lt_add_left _ (by decide)
      rw [if_neg (isBottom.not.mpr bottom), if_neg bottom, unpacked_of_pos positive]
      refine finite_congr _ _ (toNat_append_unpackMantissa _) ?_
      rw [exponent]
      omega

theorem compare_zero_finite {sign sign' : Sign} {mantissa : Nat} {exponent : Int}
    (positive : 0 < mantissa) :
    (UnpackedFloat.zero sign).compare (.finite sign' mantissa exponent positive) ≠ some .eq ∧
      (UnpackedFloat.finite sign' mantissa exponent positive).compare (.zero sign) ≠ some .eq := by
  cases sign' with
  | positive => exact ⟨(by decide : some Ordering.lt ≠ some .eq), (by decide : some Ordering.gt ≠ _)⟩
  | negative => exact ⟨(by decide : some Ordering.gt ≠ some .eq), (by decide : some Ordering.lt ≠ _)⟩

theorem compare_finite_finite {negative negative' : Bool} {mantissa other : Nat}
    {exponent further : Int} (positive : 0 < mantissa) (positive' : 0 < other) :
    (UnpackedFloat.finite (signOf negative) mantissa exponent positive).compare
        (.finite (signOf negative') other further positive') = some .eq ↔
      negative = negative' ∧ mantissa = other ∧ exponent = further := by
  have same : (compare exponent further).then (compare mantissa other) = .eq ↔
      mantissa = other ∧ exponent = further := by
    rw [Ordering.then_eq_eq, compare_eq_iff_eq, compare_eq_iff_eq, and_comm]
  cases negative <;> cases negative'
  case false.false =>
    change some ((compare exponent further).then (compare mantissa other)) = some .eq ↔ _
    simp [same]
  case true.true =>
    change some ((compare exponent further).then (compare mantissa other)).swap = some .eq ↔ _
    simp [Ordering.swap_eq_eq, same]
  case false.true =>
    change some Ordering.gt = some .eq ↔ _
    simp
  case true.false =>
    change some Ordering.lt = some .eq ↔ _
    simp

/-- The two zeros are equal, and otherwise the same signs, significands and
shifts are. -/
theorem compare_finite {negative negative' : Bool} {significand other shift further : Nat} :
    (finite negative significand shift).unpacked.compare (finite negative' other further).unpacked =
        some .eq ↔
      significand = 0 ∧ other = 0 ∨
        negative = negative' ∧ significand = other ∧ shift = further := by
  rcases Nat.eq_zero_or_pos significand with rfl | positive
  · rcases Nat.eq_zero_or_pos other with rfl | positive'
    · rw [unpacked_zero, unpacked_zero]
      exact iff_of_true rfl (.inl ⟨rfl, rfl⟩)
    · rw [unpacked_zero, unpacked_of_pos positive']
      refine iff_of_false (compare_zero_finite positive').1 ?_
      rintro (⟨-, rfl⟩ | ⟨-, rfl, -⟩) <;> exact Nat.lt_irrefl 0 positive'
  · rcases Nat.eq_zero_or_pos other with rfl | positive'
    · rw [unpacked_zero, unpacked_of_pos positive]
      refine iff_of_false (compare_zero_finite positive).2 ?_
      rintro (⟨rfl, -⟩ | ⟨-, rfl, -⟩) <;> exact Nat.lt_irrefl 0 positive
    · rw [unpacked_of_pos positive, unpacked_of_pos positive', compare_finite_finite]
      have exponents : (shift : Int) - 1074 = further - 1074 ↔ shift = further := by omega
      rw [exponents]
      exact (or_iff_right fun zeros => positive.ne' zeros.1).symm

theorem worth_finite {negative negative' : Bool} {significand other shift further : Nat}
    (canonical : (finite negative significand shift).Canonical)
    (canonical' : (finite negative' other further).Canonical) :
    (finite negative significand shift).worth = (finite negative' other further).worth ↔
      significand = 0 ∧ other = 0 ∨
        negative = negative' ∧ significand = other ∧ shift = further := by
  have counts : (finite negative significand shift).worth =
        (finite negative' other further).worth ↔
      significand * 2 ^ shift = other * 2 ^ further ∧
        (negative = negative' ∨ significand * 2 ^ shift = 0) := by
    have count : significand * Nat.pow 2 shift = significand * 2 ^ shift := rfl
    have count' : other * Nat.pow 2 further = other * 2 ^ further := rfl
    simp only [worth, Option.some.injEq, Worth.units.injEq, count, count']
    generalize significand * 2 ^ shift = units
    generalize other * 2 ^ further = units'
    cases negative <;> cases negative' <;>
      simp only [Bool.false_eq_true, if_true, if_false, reduceCtorEq, true_or, false_or,
        and_true] <;> omega
  rw [counts]
  constructor
  · rintro ⟨equal, signs⟩
    have forms : significand = other ∧ shift = further ∨ significand = 0 ∧ other = 0 := by
      rcases Nat.le_total shift further with less | less
      · exact eq_of_units canonical canonical' equal less
      · rcases eq_of_units canonical' canonical equal.symm less with ⟨same, same'⟩ | ⟨zero, zero'⟩
        · exact .inl ⟨same.symm, same'.symm⟩
        · exact .inr ⟨zero', zero⟩
    rcases forms with ⟨rfl, rfl⟩ | zeros
    · rcases signs with same | zero
      · exact .inr ⟨same, rfl, rfl⟩
      · have none : significand = 0 :=
          (Nat.mul_eq_zero.mp zero).resolve_right (Nat.two_pow_pos shift).ne'
        exact .inl ⟨none, none⟩
    · exact .inl zeros
  · rintro (⟨rfl, rfl⟩ | ⟨rfl, rfl, rfl⟩)
    · simp
    · exact ⟨rfl, .inl rfl⟩

theorem compare_notANumber (value : UnpackedFloat) :
    UnpackedFloat.notANumber.compare value ≠ some .eq ∧
      value.compare .notANumber ≠ some .eq := by
  cases value <;> constructor <;>
    · intro equal
      cases equal

theorem compare_infinite {negative negative' : Bool} :
    (infinite negative).unpacked.compare (infinite negative').unpacked = some .eq ↔
      negative = negative' := by
  cases negative <;> cases negative' <;> decide

/-- Nothing but an infinite number is equal to one. -/
theorem compare_infinity {sign : Sign} {value : UnpackedFloat}
    (bounded : ∀ other, value ≠ .infinity other) :
    (UnpackedFloat.infinity sign).compare value ≠ some .eq ∧
      value.compare (.infinity sign) ≠ some .eq := by
  cases value with
  | infinity other => exact absurd rfl (bounded other)
  | _ =>
      constructor <;> cases sign <;>
        · intro equal
          cases equal

theorem unpacked_finite_ne {negative : Bool} {significand shift : Nat} (sign : Sign) :
    (finite negative significand shift).unpacked ≠ .infinity sign := by
  rcases Nat.eq_zero_or_pos significand with rfl | positive
  · rw [unpacked_zero]
    intro equal
    cases equal
  · rw [unpacked_of_pos positive]
    intro equal
    cases equal

/-- Floating-point numbers are equal when they are worth the same. -/
theorem beq_iff (x y : Float) :
    (x == y) = true ↔ ∃ worth, (ofFloat x).worth = some worth ∧ (ofFloat y).worth = some worth := by
  have compared : (x == y) = ((ofFloat x).unpacked.compare (ofFloat y).unpacked == some .eq) := by
    rw [← unpack_toModel, ← unpack_toModel]
    rfl
  rw [compared, beq_iff_eq]
  have first := canonical_ofFloat x
  have second := canonical_ofFloat y
  cases isFirst : ofFloat x with
  | undefined => exact iff_of_false (compare_notANumber _).1 (by simp [worth])
  | infinite negative =>
      cases ofFloat y with
      | undefined => exact iff_of_false (compare_notANumber _).2 (by simp [worth])
      | infinite negative' =>
          rw [compare_infinite]
          simp [worth, eq_comm]
      | finite negative' other further =>
          exact iff_of_false (compare_infinity unpacked_finite_ne).1 (by simp [worth])
  | finite negative significand shift =>
      cases isSecond : ofFloat y with
      | undefined => exact iff_of_false (compare_notANumber _).2 (by simp [worth])
      | infinite negative' =>
          exact iff_of_false (compare_infinity unpacked_finite_ne).2 (by simp [worth])
      | finite negative' other further =>
          rw [compare_finite, ← worth_finite (isFirst ▸ first) (isSecond ▸ second)]
          simp [worth, eq_comm]

/-- The whole number that a binary number is tells what it is worth. -/
theorem toInt?_eq_some {binary : Binary} {whole : Int} :
    binary.toInt? = some whole ↔ binary.worth = some (.units (whole * Worth.one)) := by
  have positive := Worth.one_pos
  cases binary with
  | undefined => exact ⟨nofun, nofun⟩
  | infinite negative => exact ⟨nofun, nofun⟩
  | finite negative significand shift =>
      unfold Worth.one at positive ⊢
      simp only [toInt?, worth, Option.some.injEq, Worth.units.injEq]
      generalize significand * Nat.pow 2 shift = count
      generalize Nat.pow 2 1074 = unit at positive
      have signed : ∀ {quotient : Nat}, count = quotient * unit →
          ((if negative then -(quotient : Int) else quotient) = whole ↔
            (if negative then -(count : Int) else count) = whole * unit) := by
        rintro quotient rfl
        have cancels : ∀ {first second : Int}, first * unit = second * unit ↔ first = second :=
          Int.mul_eq_mul_right_iff (by omega)
        cases negative <;>
          simp only [Bool.false_eq_true, if_true, if_false, Nat.cast_mul, ← Int.neg_mul, cancels]
      by_cases divides : count % unit = 0
      · have quotient : count = count / unit * unit :=
          (Nat.div_mul_cancel (Nat.dvd_of_mod_eq_zero divides)).symm
        simp only [divides, if_true, Option.some.injEq]
        exact signed quotient
      · simp only [divides, if_false, reduceCtorEq, false_iff]
        intro equal
        apply divides
        have multiple : (unit : Int) ∣ count := by
          cases negative with
          | true => exact (Int.dvd_neg).mp ⟨whole, by simpa [Int.mul_comm] using equal⟩
          | false => exact ⟨whole, by simpa [Int.mul_comm] using equal⟩
        exact Nat.mod_eq_zero_of_dvd (Int.natCast_dvd_natCast.mp multiple)

end Decimal.Binary

namespace Number

/-- What a number amounts to, if it is one. -/
def worth : Number → Option Worth
  | .whole value => some (.units (value * Worth.one))
  | .real value => (Decimal.Binary.ofFloat value).worth

/-- Numbers are the same when they are worth the same. -/
theorem same_iff (first second : Number) :
    first.same second = true ↔
      ∃ worth, first.worth = some worth ∧ second.worth = some worth := by
  have positive : (Worth.one : Int) ≠ 0 := by
    exact_mod_cast Worth.one_pos.ne'
  cases first with
  | whole value =>
      cases second with
      | whole other =>
          have units : other * (Worth.one : Int) = value * Worth.one ↔ other = value :=
            Int.mul_eq_mul_right_iff positive
          simp only [same, worth, beq_iff_eq, Option.some.injEq, exists_eq_left',
            Worth.units.injEq, units]
          exact eq_comm
      | real other =>
          rw [same, beq_iff_eq, Decimal.Binary.toInt?_eq_some]
          constructor
          · exact fun equal => ⟨_, rfl, equal⟩
          · rintro ⟨_, ⟨⟩, equal⟩
            exact equal
  | real value =>
      cases second with
      | whole other =>
          rw [same, beq_iff_eq, Decimal.Binary.toInt?_eq_some]
          constructor
          · exact fun equal => ⟨_, equal, rfl⟩
          · rintro ⟨_, equal, ⟨⟩⟩
            exact equal
      | real other => exact Decimal.Binary.beq_iff value other

theorem same_trans {first second third : Number} (same : first.same second = true)
    (further : second.same third = true) : first.same third = true := by
  obtain ⟨worth, isFirst, isSecond⟩ := (same_iff _ _).mp same
  obtain ⟨worth', isSecond', isThird⟩ := (same_iff _ _).mp further
  obtain rfl := Option.some.inj (isSecond.symm.trans isSecond')
  exact (same_iff _ _).mpr ⟨worth, isFirst, isThird⟩

end Number
end CuratorKeeper
