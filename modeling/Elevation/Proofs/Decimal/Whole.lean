import Elevation.Scalar
import Elevation.Proofs.Decimal.Binary

/-!
Whole numbers as doubles. A whole number with at most 53 digits before its trailing zeros, in base
two, is a double exactly: the conversion only moves the digits to full length.
-/

namespace Elevation.Decimal

open Float.Model (Format UnpackedFloat totalExponent)
open Float.Model.UnpackedFloat

/-- A significand at full length. -/
def IsFull (significand : Nat) : Prop := 2 ^ 52 ≤ significand ∧ significand < 2 ^ 53

variable {significand : Nat} {exponent : Int}

theorem IsFull.pos (full : IsFull significand) : 0 < significand :=
  lt_of_lt_of_le (by decide) full.1

theorem IsFull.log2 (full : IsFull significand) : significand.log2 = 52 :=
  (Nat.log2_eq_iff full.pos.ne').mpr full

theorem log2_mul_two_pow {n : Nat} (some : n ≠ 0) (places : Nat) :
    (n * 2 ^ places).log2 = n.log2 + places := by
  induction places with
  | zero => simp
  | succ places ih =>
    rw [pow_succ', mul_left_comm, Nat.log2_two_mul (Nat.mul_ne_zero some (by positivity)), ih]
    omega

/-! ### Packing -/

theorem ofBitVec_unpackSign (sign : Sign) (field : BitVec 11) (fraction : BitVec 52) :
    Sign.ofBitVec (unpackSign (packComponents Format.binary64 sign field fraction)) = sign := by
  change Sign.ofBitVec ((sign.toBitVec ++ field ++ fraction).extractLsb' 63 1) = sign
  rw [BitVec.extractLsb'_append_eq_of_le (by decide), BitVec.extractLsb'_append_eq_of_le (by decide)]
  cases sign <;> rfl

/-- The leading digit is not stored, but put back. -/
theorem IsFull.toNat_fraction (full : IsFull significand) :
    (1#1 ++ BitVec.ofNat 52 significand).toNat = significand := by
  have low : significand % 2 ^ 52 < 2 ^ 52 := Nat.mod_lt _ (by decide)
  rw [BitVec.toNat_append, BitVec.toNat_ofNat]
  change 1 <<< 52 ||| significand % 2 ^ 52 = _
  rw [Nat.shiftLeft_eq, one_mul, ← Nat.two_pow_add_eq_or_of_lt low 1, mul_one]
  obtain ⟨least, most⟩ := full
  omega

theorem IsFull.unpack_pack (full : IsFull significand) (low : -1074 ≤ exponent) (high : exponent ≤ 971)
    (sign : Sign) :
    (Float.Model.pack (.finite sign significand exponent full.pos)).unpack =
      .finite sign significand exponent full.pos := by
  change unpack Format.binary64 (pack Format.binary64 _) = _
  have bias : (exponent + (Format.binary64.exponentBias : Int) +
      Format.binary64.mantissaBitsWithoutImplicit).toNat = (exponent + 1075).toNat := by
    change (exponent + 1023 + 52).toNat = _
    omega
  have field : (BitVec.ofNat 11 (exponent + 1075).toNat).toNat = (exponent + 1075).toNat := by
    rw [BitVec.toNat_ofNat]
    exact Nat.mod_eq_of_lt (by omega)
  have finite : BitVec.ofNat 11 (exponent + 1075).toNat ≠ -1#11 := by
    intro top
    have value : (exponent + 1075).toNat = 2047 := field ▸ congrArg BitVec.toNat top
    omega
  have normal : BitVec.ofNat 11 (exponent + 1075).toNat ≠ 0#11 := by
    intro bottom
    have value : (exponent + 1075).toNat = 0 := field ▸ congrArg BitVec.toNat bottom
    omega
  have place : (((exponent + 1075).toNat : Nat) : Int) - (1023 + 52) = exponent := by omega
  have room : ¬ 2 ^ Format.binary64.exponentBits ≤ (exponent + 1075).toNat + 1 := by
    change ¬ 2048 ≤ _
    omega
  simp only [pack, bias, full.log2, if_neg room]
  rw [if_pos (by rfl)]
  simp only [unpack, unpackMantissa_packComponents, unpackExponent_packComponents,
    ofBitVec_unpackSign, if_neg finite, if_neg normal, field, full.toNat_fraction]
  congr 1

/-! ### Rounding -/

theorem shiftRight_exact (significand places : Nat) :
    ExtendedMantissa.ofMantissaAndAccuracy (significand * 2 ^ places) .exact >>> places =
      ExtendedMantissa.ofMantissaAndAccuracy significand .exact := by
  change Nat.repeat _ _ _ = _
  induction places generalizing significand with
  | zero => simp [Nat.repeat]
  | succ places ih =>
    rw [Nat.repeat, pow_succ', ← mul_assoc, ih]
    simp [ExtendedMantissa.shiftRightOne, ExtendedMantissa.ofMantissaAndAccuracy]

theorem IsFull.targetExponent (full : IsFull significand) (low : -1074 ≤ exponent) (places : Nat) :
    Format.binary64.targetExponent (totalExponent (significand * 2 ^ places) (exponent - places)) =
      exponent := by
  change max (((significand * 2 ^ places).log2 : Int) + 1 + (exponent - places) - 53) (-1074) = exponent
  rw [log2_mul_two_pow full.pos.ne', full.log2]
  omega

theorem IsFull.shiftToTargetExponent (full : IsFull significand) (low : -1074 ≤ exponent)
    (places : Nat) :
    shiftToTargetExponent Format.binary64 (significand * 2 ^ places) (exponent - places) .exact =
      (ExtendedMantissa.ofMantissaAndAccuracy significand .exact, exponent) := by
  have steps : (exponent - (exponent - places)).toNat = places := by omega
  simp only [UnpackedFloat.shiftToTargetExponent, full.targetExponent low, shiftToExponent, steps,
    shiftRight_exact]
  congr 1
  omega

/-- A number that has a full significand and zeros behind it is rounded to itself. -/
theorem IsFull.roundWithAccuracy (full : IsFull significand) (low : -1074 ≤ exponent) (sign : Sign)
    (places : Nat) :
    roundWithAccuracy Format.binary64 sign (significand * 2 ^ places) (exponent - places) .exact =
      .finite sign significand exponent full.pos := by
  have again := full.shiftToTargetExponent low 0
  simp only [pow_zero, mul_one, Nat.cast_zero, sub_zero] at again
  have rounded : (ExtendedMantissa.ofMantissaAndAccuracy significand .exact).roundedMantissa =
      significand := rfl
  simp only [UnpackedFloat.roundWithAccuracy, full.shiftToTargetExponent low, rounded, again]
  exact dif_neg full.pos.ne'

/-! ### Whole numbers -/

def IsScaled (n significand : Nat) (exponent : Int) : Prop :=
  n * 2 ^ (-exponent).toNat = significand * 2 ^ exponent.toNat

theorem IsScaled.of_nonpos {n : Nat} (scaled : IsScaled n significand exponent) (low : exponent ≤ 0) :
    n * 2 ^ (-exponent).toNat = significand := by
  rwa [IsScaled, Int.toNat_of_nonpos low, pow_zero, mul_one] at scaled

theorem IsScaled.of_nonneg {n : Nat} (scaled : IsScaled n significand exponent) (high : 0 ≤ exponent) :
    n = significand * 2 ^ exponent.toNat := by
  rwa [IsScaled, Int.toNat_of_nonpos (by omega), pow_zero, mul_one] at scaled

theorem IsFull.lt_iff (full : IsFull significand) {n : Nat} (scaled : IsScaled n significand exponent) :
    n < 2 ^ 53 ↔ exponent ≤ 0 := by
  constructor
  · intro small
    by_contra more
    have digits := scaled.of_nonneg (by omega)
    have even : 2 ^ 1 ≤ 2 ^ exponent.toNat := Nat.pow_le_pow_right (by decide) (by omega)
    have large := Nat.mul_le_mul full.1 even
    omega
  · intro low
    have digits := scaled.of_nonpos low
    exact (Nat.le_mul_of_pos_right n (by positivity)).trans_lt (digits ▸ full.2)

theorem IsFull.toFloat (full : IsFull significand) {n : Nat} (low : -1074 ≤ exponent) (small : n < 2 ^ 53)
    (scaled : IsScaled n significand exponent) :
    n.toUInt64.toFloat.toModel = Float.Model.pack (.finite .positive significand exponent full.pos) := by
  have digits := scaled.of_nonpos ((full.lt_iff scaled).mp small)
  have nonpos := (full.lt_iff scaled).mp small
  have positive : 0 < n := Nat.pos_of_mul_pos_right (digits ▸ full.pos)
  have word : n.toUInt64.toNat = n := Nat.mod_eq_of_lt (by omega)
  have sign : compare (n : Int) 0 = .gt := Int.compare_eq_gt.mpr (by omega)
  have target : Format.binary64.targetExponent (totalExponent n 0) = exponent := by
    have size := log2_mul_two_pow positive.ne' (-exponent).toNat
    rw [digits, full.log2] at size
    change max ((n.log2 : Int) + 1 + 0 - 53) (-1074) = exponent
    omega
  have moved : decreaseExponent n 0 exponent = (significand, exponent) := by
    rw [decreaseExponent, zero_sub, Nat.shiftLeft_eq, digits]
    congr 1
    omega
  change Float.Model.pack (normalize Format.binary64 (n.toUInt64.toNat : Int) 0 .positive) = _
  have kept := full.roundWithAccuracy low .positive 0
  rw [pow_zero, mul_one, Nat.cast_zero, sub_zero] at kept
  simp only [word, UnpackedFloat.normalize, sign, UnpackedFloat.round, Int.toNat_natCast, target, moved,
    kept]

theorem IsFull.unpack_ofNat_of_lt (full : IsFull significand) {n : Nat} (small : n < 2 ^ 53)
    (low : -52 ≤ exponent) (scaled : IsScaled n significand exponent) :
    (Float.ofNat n).toModel.unpack = .finite .positive significand exponent full.pos := by
  have nonpos := (full.lt_iff scaled).mp small
  have one : Float.exactlyRepresentablePowersOfTen[0].toModel.unpack =
      .finite .positive (2 ^ 52) (-52) (by decide) := rfl
  have scaled' := full.roundWithAccuracy (by omega : -1074 ≤ exponent) .positive 52
  change (Float.ofScientific n false 0).toModel.unpack = _
  rw [Float.ofScientific, dif_pos ⟨small, by decide⟩]
  change (Float.Model.pack (UnpackedFloat.mul Format.binary64 n.toUInt64.toFloat.toModel.unpack
    Float.exactlyRepresentablePowersOfTen[0].toModel.unpack)).unpack = _
  rw [one, full.toFloat (by omega) small scaled, full.unpack_pack (by omega) (by omega)]
  change (Float.Model.pack (UnpackedFloat.roundWithAccuracy Format.binary64 .positive
    (significand * 2 ^ 52) (exponent - (52 : Nat)) .exact)).unpack = _
  rw [scaled', full.unpack_pack (by omega) (by omega)]

theorem IsFull.unpack_ofNat_of_le (full : IsFull significand) {n : Nat} (large : 2 ^ 53 ≤ n)
    (high : exponent ≤ 971) (scaled : IsScaled n significand exponent) :
    (Float.ofNat n).toModel.unpack = .finite .positive significand exponent full.pos := by
  have some : n ≠ 0 := by omega
  have away : ¬ (n < 2 ^ 53 ∧ 0 ≤ 22) := fun both => absurd both.1 (not_lt.mpr large)
  have places : 0 < exponent := not_le.mp fun low => away ⟨(full.lt_iff scaled).mpr low, by decide⟩
  have digits := scaled.of_nonneg places.le
  have size : (0 : Int) ≤ 2 ^ Format.binary64.exponentBits := by positivity
  change (Float.ofScientific n false 0).toModel.unpack = _
  rw [Float.ofScientific, dif_neg away]
  change (Float.Model.pack (UnpackedFloat.ofScientific Format.binary64 n 0)).unpack = _
  have converted : UnpackedFloat.ofScientific Format.binary64 n 0 =
      UnpackedFloat.roundWithAccuracy Format.binary64 .positive (n <<< 53 * 10 ^ 0) (-53 + 0) .exact := by
    rw [UnpackedFloat.ofScientific, dif_neg some, if_neg (by decide), if_neg (by omega), if_pos le_rfl]
    rfl
  have shifted : n <<< 53 * 10 ^ 0 = significand * 2 ^ (exponent.toNat + 53) := by
    rw [digits, Nat.shiftLeft_eq, pow_zero, mul_one, pow_add, mul_assoc]
  have placed : (-53 + 0 : Int) = exponent - ((exponent.toNat + 53 : Nat) : Int) := by omega
  rw [converted, shifted, placed, full.roundWithAccuracy (by omega)]
  exact full.unpack_pack (by omega) high .positive

/-- A whole number that a double can have is converted to that double. -/
theorem IsFull.unpack_ofNat (full : IsFull significand) {n : Nat} (low : -52 ≤ exponent)
    (high : exponent ≤ 971) (scaled : IsScaled n significand exponent) :
    (Float.ofNat n).toModel.unpack = .finite .positive significand exponent full.pos := by
  by_cases small : n < 2 ^ 53
  · exact full.unpack_ofNat_of_lt small low scaled
  · exact full.unpack_ofNat_of_le (not_lt.mp small) high scaled

theorem IsFull.unpack_ofInt_neg (full : IsFull significand) {n : Nat} (low : -52 ≤ exponent)
    (high : exponent ≤ 971) (scaled : IsScaled n significand exponent) :
    (Float.ofInt (-n)).toModel.unpack = .finite .negative significand exponent full.pos := by
  have positive : 0 < n := by
    refine Nat.pos_of_ne_zero fun zero => ?_
    have none : significand * 2 ^ exponent.toNat = 0 := by rw [← scaled, zero, zero_mul]
    exact absurd none (Nat.mul_ne_zero full.pos.ne' (by positivity))
  have digits := full.unpack_ofNat low high scaled
  obtain ⟨less, rfl⟩ := Nat.exists_eq_succ_of_ne_zero positive.ne'
  change (Float.Model.pack (Float.ofNat (less + 1)).toModel.unpack.neg).unpack = _
  rw [digits]
  exact full.unpack_pack (by omega) high .negative

end Elevation.Decimal
