import Elevation.Decimal.Binary
import Mathlib

/-!
Doubles and their parts. The sign, significand and exponent that are read off the bits of a double
are those of the number as it is compared and calculated with.
-/

namespace Elevation.Decimal

open Float.Model (Format UnpackedFloat)
open Float.Model.UnpackedFloat (Sign unpackExponent unpackMantissa unpackSign)

def isNegative : Sign → Bool
  | .positive => false
  | .negative => true

/-- A double taken apart, from the form in which it is calculated with. -/
def Binary.ofUnpacked : UnpackedFloat → Binary
  | .notANumber => .nan
  | .infinity sign => .infinite (isNegative sign)
  | .zero sign => .finite (isNegative sign) 0 lowestExponent
  | .finite sign significand exponent _ => .finite (isNegative sign) significand exponent

section

variable (bits : BitVec Format.binary64.numBits)

theorem toNat_unpackExponent : (unpackExponent bits).toNat = bits.toNat / 2 ^ 52 % 2048 := by
  simp [unpackExponent, Nat.shiftRight_eq_div_pow]

theorem toNat_unpackMantissa : (unpackMantissa bits).toNat = bits.toNat % 2 ^ 52 := by
  simp [unpackMantissa]

theorem toNat_unpackSign : (unpackSign bits).toNat = bits.toNat >>> 63 := by
  have bound : bits.toNat >>> 63 < 2 := by
    have whole : bits.toNat < 2 ^ 64 := bits.isLt
    rw [Nat.shiftRight_eq_div_pow]
    omega
  simp [unpackSign, Nat.mod_eq_of_lt bound]

theorem isNegative_unpackSign :
    isNegative (Sign.ofBitVec (unpackSign bits)) = (bits.toNat >>> 63 == 1) := by
  have value := toNat_unpackSign bits
  rw [← value, Sign.ofBitVec]
  generalize unpackSign bits = sign
  revert sign
  decide

theorem toNat_significand :
    (1#1 ++ unpackMantissa bits).toNat = 2 ^ 52 + bits.toNat % 2 ^ 52 := by
  have low : bits.toNat % 2 ^ 52 < 2 ^ 52 := Nat.mod_lt _ (by decide)
  rw [BitVec.toNat_append, toNat_unpackMantissa]
  change 1 <<< 52 ||| bits.toNat % 2 ^ 52 = _
  rw [Nat.shiftLeft_eq, one_mul, ← Nat.two_pow_add_eq_or_of_lt low 1, mul_one]

theorem Binary.ofUnpacked_unpack : ofUnpacked (UnpackedFloat.unpack Format.binary64 bits) =
    if bits.toNat / 2 ^ 52 % 2048 = 2047 then
      if bits.toNat % 2 ^ 52 = 0 then .infinite (bits.toNat >>> 63 == 1) else .nan
    else if bits.toNat / 2 ^ 52 % 2048 = 0 then
      .finite (bits.toNat >>> 63 == 1) (bits.toNat % 2 ^ 52) lowestExponent
    else .finite (bits.toNat >>> 63 == 1) (2 ^ 52 + bits.toNat % 2 ^ 52)
      ((bits.toNat / 2 ^ 52 % 2048 : Nat) - 1075) := by
  have exponent := toNat_unpackExponent bits
  have mantissa := toNat_unpackMantissa bits
  have full : unpackExponent bits = (-1#_) ↔ bits.toNat / 2 ^ 52 % 2048 = 2047 := by
    rw [← exponent, ← BitVec.toNat_inj]
    rfl
  have none : unpackExponent bits = 0#_ ↔ bits.toNat / 2 ^ 52 % 2048 = 0 := by
    rw [← exponent, ← BitVec.toNat_inj]
    rfl
  have zero : unpackMantissa bits = 0#_ ↔ bits.toNat % 2 ^ 52 = 0 := by
    rw [← mantissa, ← BitVec.toNat_inj]
    rfl
  have bias : ((Format.binary64.exponentBias : Int) + Format.binary64.mantissaBitsWithoutImplicit) = 1075 :=
    rfl
  simp only [UnpackedFloat.unpack, full, none, zero, exponent, bias]
  split_ifs with top empty low vanishing
  · simp only [ofUnpacked, isNegative_unpackSign]
  · rfl
  · simp only [ofUnpacked, isNegative_unpackSign, vanishing]
  · simp only [ofUnpacked, isNegative_unpackSign, mantissa, low]
    rfl
  · simp only [ofUnpacked, isNegative_unpackSign]
    exact congrArg (fun significand => finite _ significand _) (toNat_significand bits)

end

theorem Binary.ofFloat_eq (x : Float) : ofFloat x = ofUnpacked x.toModel.unpack :=
  (ofUnpacked_unpack x.toModel.toBits.toBitVec).symm

end Elevation.Decimal
