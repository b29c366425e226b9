import Elevation.Proofs.Decimal.Order

/-!
Doubles as whole numbers of the least positive double. A finite double is a multiple of it; doubles
compare as these multiples do, the floor of a double is a quotient of them, and a whole number that a
double can have is the multiple one expects. So doubles are compared with whole numbers in whole
numbers.
-/

namespace Elevation.Decimal

open Float.Model (UnpackedFloat)

/-- How many of the least positive double make up one. -/
@[irreducible]
def grainsPerOne : Nat := 2 ^ 1074

theorem grainsPerOne_pos : 0 < grainsPerOne := by
  unfold grainsPerOne
  positivity

def grainsOf (significand : Nat) (exponent : Int) : Nat := significand * 2 ^ (exponent + 1074).toNat

def grains? : UnpackedFloat → Option Int
  | .zero _ => some 0
  | .finite sign significand exponent _ => some (signed (isNegative sign) (grainsOf significand exponent))
  | _ => none

/-! ### The order of grains -/

/-- The parts that a finite double can have: the significand is at full length, unless the exponent is
the lowest one. -/
structure Placed (significand : Nat) (exponent : Int) : Prop where
  low : -1074 ≤ exponent
  high : exponent ≤ 971
  short : significand < 2 ^ 53
  full : exponent = -1074 ∨ 2 ^ 52 ≤ significand

def IsPlaced : UnpackedFloat → Prop
  | .finite _ significand exponent _ => Placed significand exponent
  | _ => True

theorem placed_of_ofFloat {x : Float} {negative : Bool} {significand : Nat} {exponent : Int}
    (parts : Binary.ofFloat x = .finite negative significand exponent) : Placed significand exponent := by
  have low : x.toBits.toNat % Binary.leadingBit < 2 ^ 52 := Nat.mod_lt _ (by decide)
  have leading : Binary.leadingBit = 2 ^ 52 := rfl
  have lowest : Binary.lowestExponent = -1074 := rfl
  have field : x.toBits.toNat / Binary.leadingBit % 2048 < 2048 := Nat.mod_lt _ (by decide)
  unfold Binary.ofFloat at parts
  simp only at parts
  split_ifs at parts with top _ bottom
  · cases parts
    exact ⟨by omega, by omega, by omega, Or.inl lowest⟩
  · cases parts
    exact ⟨by omega, by omega, by omega, Or.inr (by omega)⟩

theorem isPlaced_unpack (x : Float) : IsPlaced x.toModel.unpack := by
  have parts := @placed_of_ofFloat x
  rw [Binary.ofFloat_eq] at parts
  generalize x.toModel.unpack = number at parts
  cases number with
  | finite sign significand exponent _ => exact parts rfl
  | notANumber => trivial
  | infinity sign => trivial
  | zero sign => trivial

variable {significand significand' : Nat} {exponent exponent' : Int}

/-- A magnitude with a higher exponent is greater, since its significand is at full length. -/
theorem Placed.grainsOf_lt (placed : Placed significand exponent) (placed' : Placed significand' exponent')
    (less : exponent < exponent' ∨ exponent = exponent' ∧ significand < significand') :
    grainsOf significand exponent < grainsOf significand' exponent' := by
  have low := placed.low
  unfold grainsOf
  rcases less with less | ⟨rfl, less⟩
  · have full : 2 ^ 52 ≤ significand' := placed'.full.resolve_left (by omega)
    calc significand * 2 ^ (exponent + 1074).toNat
        < 2 ^ 53 * 2 ^ (exponent + 1074).toNat := Nat.mul_lt_mul_of_pos_right placed.short (by positivity)
      _ = 2 ^ 52 * 2 ^ ((exponent + 1074).toNat + 1) := by ring
      _ ≤ 2 ^ 52 * 2 ^ (exponent' + 1074).toNat :=
        Nat.mul_le_mul_left _ (Nat.pow_le_pow_right (by decide) (by omega))
      _ ≤ significand' * 2 ^ (exponent' + 1074).toNat := Nat.mul_le_mul_right _ full
  · exact Nat.mul_lt_mul_of_pos_right less (by positivity)

theorem grainsOf_pos (positive : 0 < significand) : 0 < grainsOf significand exponent :=
  Nat.mul_pos positive (by positivity)

theorem Placed.cmp_grainsOf (placed : Placed significand exponent) (placed' : Placed significand' exponent') :
    cmp (grainsOf significand exponent : Int) (grainsOf significand' exponent') =
      (compare exponent exponent').then (compare significand significand') := by
  have rising := placed.grainsOf_lt placed'
  have falling := placed'.grainsOf_lt placed
  rcases lt_trichotomy exponent exponent' with less | rfl | more
  · rw [compare_lt_iff_lt.mpr less, (cmp_eq_lt_iff _ _).mpr (by exact_mod_cast rising (Or.inl less))]
    rfl
  · rw [compare_eq_iff_eq.mpr rfl]
    rcases lt_trichotomy significand significand' with less | rfl | more
    · rw [compare_lt_iff_lt.mpr less,
        (cmp_eq_lt_iff _ _).mpr (by exact_mod_cast rising (Or.inr ⟨rfl, less⟩))]
      rfl
    · rw [compare_eq_iff_eq.mpr rfl, cmp_self_eq_eq]
      rfl
    · rw [compare_gt_iff_gt.mpr more,
        (cmp_eq_gt_iff _ _).mpr (by exact_mod_cast falling (Or.inr ⟨rfl, more⟩))]
      rfl
  · rw [compare_gt_iff_gt.mpr more, (cmp_eq_gt_iff _ _).mpr (by exact_mod_cast falling (Or.inl more))]
    rfl

theorem compare_of_grains {x y : UnpackedFloat} {u w : Int} (placed : IsPlaced x) (placed' : IsPlaced y)
    (finite : grains? x = some u) (finite' : grains? y = some w) : x.compare y = some (cmp u w) := by
  have above {m : Nat} {e : Int} (nonzero : 0 < m) : 0 < signed false (grainsOf m e) :=
    Int.natCast_pos.mpr (grainsOf_pos nonzero)
  have below {m : Nat} {e : Int} (nonzero : 0 < m) : signed true (grainsOf m e) < 0 :=
    neg_neg_of_pos (above nonzero)
  have less {a b : Int} (order : a < b) : some Ordering.lt = some (cmp a b) :=
    congrArg some ((cmp_eq_lt_iff a b).mpr order).symm
  have more {a b : Int} (order : b < a) : some Ordering.gt = some (cmp a b) :=
    congrArg some ((cmp_eq_gt_iff a b).mpr order).symm
  rcases x with _ | _ | sign | ⟨_ | _, m, e, nonzero⟩ <;> cases finite <;>
    rcases y with _ | _ | sign' | ⟨_ | _, m', e', nonzero'⟩ <;> cases finite'
  · rw [cmp_self_eq_eq]
    rfl
  · exact more (below nonzero')
  · exact less (above nonzero')
  · exact less (below nonzero)
  · refine congrArg some (Eq.trans ?_ (cmp_neg _ _).symm)
    rw [placed.cmp_grainsOf placed']
  · exact less ((below nonzero).trans (above nonzero'))
  · exact more (above nonzero)
  · exact more ((below nonzero').trans (above nonzero))
  · exact congrArg some (placed.cmp_grainsOf placed').symm

def grainsIn? (x : Float) : Option Int := grains? x.toModel.unpack

section

variable {x y : Float} {u w n : Int}

theorem lt_iff_grains (finite : grainsIn? x = some u) (finite' : grainsIn? y = some w) : x < y ↔ u < w := by
  rw [lt_iff_compare, compare_of_grains (isPlaced_unpack x) (isPlaced_unpack y) finite finite',
    Option.some.injEq, cmp_eq_lt_iff]

theorem le_iff_grains (finite : grainsIn? x = some u) (finite' : grainsIn? y = some w) : x ≤ y ↔ u ≤ w := by
  rw [le_iff_compare, compare_of_grains (isPlaced_unpack x) (isPlaced_unpack y) finite finite']
  simp [cmp_eq_compare, Ordering.isLE_iff_ne_gt, compare_le_iff_le]

/-! ### Whole numbers in grains -/

/-- A whole number that a double can have. -/
def IsExact (n : Int) : Prop := grainsIn? (Float.ofInt n) = some (n * grainsPerOne)

theorem grainsOf_of_isScaled {n : Nat} (low : -1074 ≤ exponent) (scaled : IsScaled n significand exponent) :
    grainsOf significand exponent = n * grainsPerOne := by
  unfold grainsOf grainsPerOne
  by_cases whole : 0 ≤ exponent
  · rw [scaled.of_nonneg whole, mul_assoc, ← pow_add]
    congr 2
    omega
  · rw [← scaled.of_nonpos (by omega), mul_assoc, ← pow_add]
    congr 2
    omega

theorem IsFull.isExact (full : IsFull significand) {n : Nat} (low : -52 ≤ exponent)
    (high : exponent ≤ 971) (scaled : IsScaled n significand exponent) : IsExact n ∧ IsExact (-n) := by
  have grains := grainsOf_of_isScaled (by omega) scaled
  constructor
  · have parts : (Float.ofInt n).toModel.unpack = .finite .positive significand exponent full.pos :=
      full.unpack_ofNat low high scaled
    rw [IsExact, grainsIn?, parts]
    simp only [grains?, isNegative, signed, grains, Bool.false_eq_true, if_false, Nat.cast_mul]
  · rw [IsExact, grainsIn?, full.unpack_ofInt_neg low high scaled]
    simp only [grains?, isNegative, signed, grains, if_true, Nat.cast_mul, neg_mul]

theorem isExact_zero : IsExact 0 := by
  rw [IsExact, zero_mul]
  rfl

theorem isExact_of_natAbs_le (small : n.natAbs ≤ 2 ^ 53) : IsExact n := by
  suffices both : IsExact n.natAbs ∧ IsExact (-n.natAbs) by
    rcases Int.natAbs_eq n with same | same
    · rw [same]
      exact both.1
    · rw [same]
      exact both.2
  generalize n.natAbs = k at small
  rcases small.lt_or_eq with less | rfl
  · by_cases none : k = 0
    · subst none
      exact ⟨isExact_zero, isExact_zero⟩
    · obtain ⟨least, most⟩ := (Nat.log2_eq_iff none).mp rfl
      have short : k.log2 < 53 := (Nat.log2_lt none).mpr less
      have split : 2 ^ (k.log2 + 1) * 2 ^ (52 - k.log2) = 2 ^ 53 := by
        rw [← pow_add]
        congr 1
        omega
      have split' : 2 ^ k.log2 * 2 ^ (52 - k.log2) = 2 ^ 52 := by
        rw [← pow_add]
        congr 1
        omega
      have full : IsFull (k * 2 ^ (52 - k.log2)) :=
        ⟨split' ▸ Nat.mul_le_mul_right _ least, split ▸ Nat.mul_lt_mul_of_pos_right most (by positivity)⟩
      have scaled : IsScaled k (k * 2 ^ (52 - k.log2)) (-((52 - k.log2 : Nat) : Int)) := by
        rw [IsScaled, neg_neg, Int.toNat_natCast, Int.toNat_of_nonpos (by omega), pow_zero, mul_one]
      exact full.isExact (by omega) (by omega) scaled
  · have full : IsFull (2 ^ 52) := ⟨le_rfl, by decide⟩
    have scaled : IsScaled (2 ^ 53) (2 ^ 52) 1 := rfl
    exact full.isExact (by decide) (by decide) scaled

/-! ### Floors in grains -/

theorem neg_ediv_natCast {m d : Nat} (positive : 0 < d) : -(m : Int) / d = -((m + d - 1) / d : Nat) := by
  have low := Nat.div_mul_le_self (m + d - 1) d
  have high := Nat.lt_div_mul_add (a := m + d - 1) positive
  generalize (m + d - 1) / d = ceil at low high
  have split : ((ceil * d - m : Nat) : Int) + d * -ceil = -m := by
    rw [Nat.cast_sub (by omega)]
    push_cast
    ring
  exact ((Int.ediv_emod_unique (by exact_mod_cast positive)).mpr ⟨split, by omega, by omega⟩).1

theorem floorSigned_eq_ediv {num den grains : Nat} (negative : Bool) (positive : 0 < den)
    (same : num * grainsPerOne = grains * den) :
    Ratio.floorSigned negative ⟨num, den⟩ = signed negative grains / grainsPerOne := by
  have floor : Ratio.floorSigned negative ⟨num, den⟩ = signed negative num / den := by
    cases negative
    · rfl
    · exact (neg_ediv_natCast positive).symm
  have level : signed negative num * grainsPerOne = signed negative grains * den := by
    cases negative
    · simp only [signed, Bool.false_eq_true, if_false]
      exact_mod_cast same
    · simp only [signed, if_true, neg_mul, neg_inj]
      exact_mod_cast same
  have some : (0 : Int) < den := by exact_mod_cast positive
  have some' : (0 : Int) < grainsPerOne := by exact_mod_cast grainsPerOne_pos
  rw [floor, ← Int.mul_ediv_mul_of_pos_left _ _ some', level, mul_comm (den : Int),
    Int.mul_ediv_mul_of_pos_left _ _ some]

theorem floorSigned_scaled (low : -1074 ≤ exponent) (negative : Bool) (significand : Nat) :
    Ratio.floorSigned negative (Ratio.scaled significand exponent) =
      signed negative (grainsOf significand exponent) / grainsPerOne := by
  unfold Ratio.scaled
  split_ifs with whole
  · apply floorSigned_eq_ediv negative Nat.one_pos
    unfold grainsOf grainsPerOne
    rw [Nat.shiftLeft_eq, mul_one, mul_assoc, ← pow_add]
    congr 2
    omega
  · apply floorSigned_eq_ediv negative (by simp [Nat.shiftLeft_eq])
    unfold grainsOf grainsPerOne
    rw [Nat.shiftLeft_eq, one_mul, mul_assoc, ← pow_add]
    congr 2
    omega

theorem floor_of_grains (finite : grainsIn? x = some u) : Scalar.floor x = .ok (u / grainsPerOne) := by
  change integerOf Ratio.floorSigned x = _
  have placed := isPlaced_unpack x
  rw [grainsIn?] at finite
  rw [integerOf, Binary.ofFloat_eq]
  generalize x.toModel.unpack = parts at placed finite ⊢
  cases parts with
  | notANumber => cases finite
  | infinity sign => cases finite
  | zero sign =>
    cases finite
    have none : Ratio.floorSigned (isNegative sign) (Ratio.scaled 0 Binary.lowestExponent) = 0 := by
      cases sign <;> decide +kernel
    simp only [Binary.ofUnpacked, none, Int.zero_ediv]
  | finite sign significand exponent positive =>
    cases finite
    simp only [Binary.ofUnpacked, floorSigned_scaled placed.low]

theorem exists_grains_of_floor (floored : Scalar.floor x = .ok n) :
    ∃ u, grainsIn? x = some u ∧ n = u / grainsPerOne := by
  have finite : ∃ u, grainsIn? x = some u := by
    change integerOf Ratio.floorSigned x = .ok n at floored
    rw [integerOf, Binary.ofFloat_eq] at floored
    rw [grainsIn?]
    generalize x.toModel.unpack = parts at floored ⊢
    cases parts with
    | notANumber => cases floored
    | infinity sign => cases floored
    | zero sign => exact ⟨_, rfl⟩
    | finite sign significand exponent positive => exact ⟨_, rfl⟩
  obtain ⟨u, grains⟩ := finite
  exact ⟨u, grains, Except.ok.inj (floored.symm.trans (floor_of_grains grains))⟩

theorem ceil_le {m d : Nat} (some : 0 < m) (positive : 0 < d) : (m + d - 1) / d ≤ m := by
  obtain ⟨d, rfl⟩ := Nat.exists_eq_succ_of_ne_zero positive.ne'
  have long := Nat.le_mul_of_pos_left d some
  apply Nat.div_le_of_le_mul
  rw [Nat.succ_mul, mul_comm d]
  omega

/-- A floor is a whole number that a double can have: a double with places behind the point has few
digits before it. -/
theorem isExact_floor (floored : Scalar.floor x = .ok n) : IsExact n := by
  change integerOf Ratio.floorSigned x = .ok n at floored
  have placed := isPlaced_unpack x
  rw [integerOf, Binary.ofFloat_eq] at floored
  generalize x.toModel.unpack = parts at placed floored
  cases parts with
  | notANumber => cases floored
  | infinity sign => cases floored
  | zero sign =>
    have none : Ratio.floorSigned (isNegative sign) (Ratio.scaled 0 Binary.lowestExponent) = 0 := by
      cases sign <;> decide +kernel
    rw [← Except.ok.inj floored, none]
    exact isExact_zero
  | finite sign significand exponent positive =>
    have placed : Placed significand exponent := placed
    rw [← Except.ok.inj floored, Ratio.scaled]
    split_ifs with whole
    · have full : IsFull significand := ⟨placed.full.resolve_left (by omega), placed.short⟩
      have scaled : IsScaled (significand <<< exponent.toNat) significand exponent := by
        rw [IsScaled, Nat.shiftLeft_eq, Int.toNat_of_nonpos (by omega : -exponent ≤ 0), pow_zero, mul_one]
      have exact := full.isExact (by omega) placed.high scaled
      cases sign with
      | positive => simpa [Ratio.floorSigned, isNegative] using exact.1
      | negative => simpa [Ratio.floorSigned, isNegative] using exact.2
    · apply isExact_of_natAbs_le
      have short := placed.short
      have low := Nat.div_le_self significand (1 <<< (-exponent).toNat)
      have high := ceil_le positive (by simp [Nat.shiftLeft_eq] : 0 < 1 <<< (-exponent).toNat)
      cases sign with
      | positive =>
        simp only [Ratio.floorSigned, isNegative, Bool.false_eq_true, if_false, Int.natAbs_natCast]
        exact low.trans short.le
      | negative =>
        simp only [Ratio.floorSigned, isNegative, if_true, Int.natAbs_neg, Int.natAbs_natCast]
        exact high.trans short.le

theorem ofInt_floor_le (floored : Scalar.floor x = .ok n) : Float.ofInt n ≤ x := by
  obtain ⟨u, grains, rfl⟩ := exists_grains_of_floor floored
  refine (le_iff_grains (isExact_floor floored) grains).mpr (Int.ediv_mul_le u ?_)
  exact_mod_cast grainsPerOne_pos.ne'

/-! ### Numbers with and without a floor -/

theorem exists_floor_iff : (∃ n, Scalar.floor x = .ok n) ↔ x.isFinite = true := by
  change (∃ n, integerOf Ratio.floorSigned x = .ok n) ↔ x.toModel.unpack.isFinite = true
  rw [integerOf, Binary.ofFloat_eq]
  cases x.toModel.unpack <;> simp [Binary.ofUnpacked, UnpackedFloat.isFinite]

theorem exists_ofInt?_of_isExact {m : Int} (exact : IsExact m) :
    ∃ x : Float, Scalar.ofInt? m = some x := by
  have finite : (Float.ofInt m).isFinite = true := exists_floor_iff.mp ⟨_, floor_of_grains exact⟩
  exact ⟨Float.ofInt m, if_pos finite⟩

theorem floor_eq_infinite_iff : Scalar.floor x = .error .infinite ↔ x.isInf = true := by
  change integerOf Ratio.floorSigned x = .error .infinite ↔ x.toModel.unpack.isInf = true
  rw [integerOf, Binary.ofFloat_eq]
  cases x.toModel.unpack <;> simp [Binary.ofUnpacked, UnpackedFloat.isInf]

theorem floor_eq_nan_iff : Scalar.floor x = .error .nan ↔ x.isNaN = true := by
  change integerOf Ratio.floorSigned x = .error .nan ↔ x.toModel.unpack.isNaN = true
  rw [integerOf, Binary.ofFloat_eq]
  cases x.toModel.unpack <;> simp [Binary.ofUnpacked, UnpackedFloat.isNaN]

theorem isNaN_of_floor (floored : Scalar.floor x = .ok n) : x.isNaN = false := by
  rw [← Bool.not_eq_true, ← floor_eq_nan_iff, floored]
  exact nofun

/-! ### Whole numbers below doubles -/

/-- A whole number that a double can have is less than a finite double if it is less than the floor
or is the floor of a greater number. -/
theorem ofInt_lt_iff {m : Int} (exact : IsExact n) (floored : Scalar.floor x = .ok m) :
    Float.ofInt n < x ↔ n < m ∨ n = m ∧ Float.ofInt m < x := by
  obtain ⟨u, grains, rfl⟩ := exists_grains_of_floor floored
  have some : (0 : Int) < grainsPerOne := by exact_mod_cast grainsPerOne_pos
  rw [lt_iff_grains exact grains, lt_iff_grains (isExact_floor floored) grains]
  constructor
  · intro less
    rcases ((Int.le_ediv_iff_mul_le some).mpr less.le).lt_or_eq with below | rfl
    · exact Or.inl below
    · exact Or.inr ⟨rfl, less⟩
  · rintro (below | ⟨rfl, less⟩)
    · exact (Int.mul_lt_mul_of_pos_right below some).trans_le (Int.ediv_mul_le u some.ne')
    · exact less

theorem lt_isInf_iff {y' : Float} {u' : Int} (finite : grainsIn? y = some u) (finite' : grainsIn? y' = some u')
    (infinite : x.isInf = true) : y < x ↔ y' < x := by
  change x.toModel.unpack.isInf = true at infinite
  rw [lt_iff_compare, lt_iff_compare]
  rw [grainsIn?] at finite finite'
  generalize x.toModel.unpack = limit at infinite
  have side {number : UnpackedFloat} {w : Int} (finite : grains? number = some w) :
      number.compare limit = (UnpackedFloat.zero .positive).compare limit := by
    rcases limit with sign | _ | _ | _
    · rcases number with _ | _ | _ | _ <;> cases finite <;> cases sign <;> rfl
    all_goals cases infinite
  rw [side finite, side finite']

end

end Elevation.Decimal
