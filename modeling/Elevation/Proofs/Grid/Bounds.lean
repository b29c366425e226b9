import Elevation.Grid
import Elevation.Proofs.Decimal.Binary
import Elevation.Proofs.Grid.Snap

/-!
Cells of places on the globe. Cut to an integer, a longitude on the globe stays between the ends of
the globe, and one more column takes in the snapping floor; so the columns of all places that pass
the check have keys of their own. This holds for doubles as well as for exact numbers. For doubles the
snap never leads off the globe, so the corners of their cells lie on it themselves.
-/

namespace Elevation

/-- Numbers that stay within the longitudes of the globe when they are cut to integers. -/
class Scalar.Grounded (α : Type) [Scalar α] : Prop where
  truncate_mem : ∀ (x : α) (near : Int), Place.inRange (-180) 180 x = true →
    Scalar.truncate x = .ok near → -180 ≤ near ∧ near ≤ 180

namespace Decimal

open Float.Model (UnpackedFloat)

theorem significand_lt (x : Float) {negative : Bool} {significand : Nat} {exponent : Int}
    (parts : Binary.ofFloat x = .finite negative significand exponent) : significand < 2 ^ 53 := by
  have low : x.toBits.toNat % Binary.leadingBit < 2 ^ 52 := Nat.mod_lt _ (by decide)
  have leading : Binary.leadingBit = 2 ^ 52 := rfl
  unfold Binary.ofFloat at parts
  simp only at parts
  split_ifs at parts <;> cases parts <;> omega

/-- A whole number of degrees as a double: its significand is that number with `places` binary places
behind it. -/
structure Edge (bound places : Nat) : Prop where
  range : 0 < places ∧ places ≤ 52
  full : 2 ^ 52 ≤ bound * 2 ^ places
  positive : 0 < bound * 2 ^ places
  high : (Float.ofInt bound).toModel.unpack =
    .finite .positive (bound * 2 ^ places) (-places) positive
  low : (Float.ofInt (-bound)).toModel.unpack =
    .finite .negative (bound * 2 ^ places) (-places) positive
  level : Scalar.lt (Scalar.ofInt 0 : Float) (Scalar.ofInt (-bound) - Float.ofInt (-bound)) = false

theorem edge_90 : Edge 90 46 := ⟨by decide, by decide, by decide, rfl, rfl, by decide +kernel⟩

theorem edge_180 : Edge 180 45 := ⟨by decide, by decide, by decide, rfl, rfl, by decide +kernel⟩

def AtMost (bound places significand : Nat) (exponent : Int) : Prop :=
  exponent < -places ∨ exponent = -places ∧ significand ≤ bound * 2 ^ places

variable {bound places : Nat}

/-- Cut to an integer, such a magnitude is less than the edge, unless it is the edge itself or lies
less than one above it. -/
theorem scaled_lt_or_eq (edge : Edge bound places) {significand : Nat} {exponent : Int}
    (small : significand < 2 ^ 53) (inside : AtMost bound places significand exponent) :
    (Ratio.scaled significand exponent).num / (Ratio.scaled significand exponent).den < bound ∨
      (Ratio.scaled significand exponent).num / (Ratio.scaled significand exponent).den = bound ∧
        significand = bound * 2 ^ places ∧ exponent = -places := by
  have full := edge.full
  rcases inside with less | ⟨rfl, level⟩
  · left
    have den : (2 : Nat) ^ (places + 1) ≤ 2 ^ (-exponent).toNat :=
      Nat.pow_le_pow_right (by decide) (by omega)
    rw [Ratio.scaled, if_neg (by omega)]
    simp only [Nat.shiftLeft_eq, one_mul]
    calc significand / 2 ^ (-exponent).toNat
        ≤ significand / 2 ^ (places + 1) := Nat.div_le_div_left den (by positivity)
      _ < bound := by
        rw [Nat.div_lt_iff_lt_mul (by positivity), pow_succ, ← mul_assoc]
        omega
  · have parts : (Ratio.scaled significand (-places)).num / (Ratio.scaled significand (-places)).den =
        significand / 2 ^ places := by
      have broken : ¬ (0 : Int) ≤ -places := by
        have proper := edge.range.1
        omega
      rw [Ratio.scaled, if_neg broken, neg_neg, Int.toNat_natCast]
      simp only [Nat.shiftLeft_eq, one_mul]
    rw [parts]
    rcases level.lt_or_eq with less | rfl
    · exact Or.inl ((Nat.div_lt_iff_lt_mul (by positivity)).mpr less)
    · exact Or.inr ⟨Nat.mul_div_cancel _ (by positivity), rfl, rfl⟩

theorem atMost_of_isLE {significand : Nat} {exponent : Int}
    (order : ((compare exponent (-places)).then (compare significand (bound * 2 ^ places))).isLE = true) :
    AtMost bound places significand exponent := by
  rcases lt_trichotomy exponent (-places) with less | same | more
  · exact Or.inl less
  · rw [same, compare_eq_iff_eq.mpr rfl] at order
    refine Or.inr ⟨same, ?_⟩
    have order' : (compare significand (bound * 2 ^ places)).isLE = true := order
    by_contra above
    rw [compare_gt_iff_gt.mpr (not_le.mp above)] at order'
    cases order'
  · rw [compare_gt_iff_gt.mpr more] at order
    cases order

theorem atMost_of_swap {significand : Nat} {exponent : Int}
    (order : ((compare (-(places : Int)) exponent).then
      (compare (bound * 2 ^ places) significand)).swap.isLE = true) :
    AtMost bound places significand exponent := by
  apply atMost_of_isLE
  rwa [Ordering.swap_then, Std.OrientedCmp.eq_swap.symm, Std.OrientedCmp.eq_swap.symm] at order

theorem atMost_of_le (edge : Edge bound places) {x : Float} (low : Float.ofInt (-bound) ≤ x)
    (high : x ≤ Float.ofInt bound) :
    ∃ negative significand exponent, Binary.ofFloat x = .finite negative significand exponent ∧
      AtMost bound places significand exponent := by
  have low' : (Float.ofInt (-bound)).toModel.unpack.le x.toModel.unpack = true := of_decide_eq_true low
  have high' : x.toModel.unpack.le (Float.ofInt bound).toModel.unpack = true := of_decide_eq_true high
  rw [edge.low] at low'
  rw [edge.high] at high'
  rw [Binary.ofFloat_eq]
  generalize x.toModel.unpack = parts at low' high'
  cases parts with
  | notANumber => cases low'
  | infinity sign =>
    cases sign with
    | negative => cases low'
    | positive => cases high'
  | zero sign =>
    have tiny : Binary.lowestExponent < -(places : Int) := by
      have few := edge.range.2
      unfold Binary.lowestExponent
      omega
    exact ⟨_, _, _, rfl, Or.inl tiny⟩
  | finite sign significand exponent positive =>
    refine ⟨_, _, _, rfl, ?_⟩
    cases sign with
    | positive => exact atMost_of_isLE high'
    | negative => exact atMost_of_swap low'

theorem unpack_of_parts {x : Float} {significand : Nat} {exponent : Int} {positive : 0 < significand}
    (parts : Binary.ofFloat x = .finite true significand exponent) :
    x.toModel.unpack = .finite .negative significand exponent positive := by
  rw [Binary.ofFloat_eq] at parts
  generalize x.toModel.unpack = number at parts ⊢
  cases number with
  | notANumber => cases parts
  | infinity sign => cases parts
  | zero sign =>
    cases sign <;> cases parts
    cases positive
  | finite sign significand exponent positive =>
    cases sign <;> cases parts
    rfl

/-- A double between two opposite edges, cut to an integer, stays between them, and it comes to the
lower edge only from there. -/
theorem truncate_mem_of_edge (edge : Edge bound places) {x : Float} {near : Int}
    (inside : Place.inRange (-bound) bound x = true) (cut : Scalar.truncate x = .ok near) :
    -bound ≤ near ∧ near ≤ bound ∧
      (near = -bound → x.toModel.unpack = (Float.ofInt (-bound)).toModel.unpack) := by
  have range : Float.ofInt (-bound) ≤ x ∧ x ≤ Float.ofInt bound := by
    have both := Bool.and_eq_true_iff.mp inside
    exact ⟨of_decide_eq_true both.1, of_decide_eq_true both.2⟩
  obtain ⟨negative, significand, exponent, parts, level⟩ := atMost_of_le edge range.1 range.2
  have size := scaled_lt_or_eq edge (significand_lt x parts) level
  change integerOf _ x = _ at cut
  simp only [integerOf, parts, Except.ok.injEq] at cut
  subst cut
  generalize (Ratio.scaled significand exponent).num / (Ratio.scaled significand exponent).den =
    magnitude at size ⊢
  have atMost : magnitude ≤ bound := size.elim Nat.le_of_lt (fun full => full.1.le)
  refine ⟨?_, ?_, ?_⟩
  · unfold signed
    split_ifs <;> omega
  · unfold signed
    split_ifs <;> omega
  · intro lowest
    have some : 0 < bound := Nat.pos_of_mul_pos_right edge.positive
    unfold signed at lowest
    split_ifs at lowest with negates
    · obtain less | ⟨-, rfl, rfl⟩ := size
      · omega
      · rw [edge.low]
        exact unpack_of_parts (negates ▸ parts)
    · omega

theorem sub_eq_of_unpack {x y : Float} (same : x.toModel.unpack = y.toModel.unpack) (z : Float) :
    z - x = z - y := by
  change Float.ofModel (Float.Model.pack (UnpackedFloat.sub _ z.toModel.unpack x.toModel.unpack)) = _
  rw [same]
  rfl

theorem snappedFloor_mem_of_edge (edge : Edge bound places) {x : Float} {n : Int}
    (inside : Place.inRange (-bound) bound x = true) (floored : snappedFloor x = .ok n) :
    -bound ≤ n ∧ n ≤ bound := by
  unfold snappedFloor at floored
  cases cut : Scalar.truncate x with
  | error reason => simp [cut] at floored
  | ok near =>
    obtain ⟨low, high, lowest⟩ := truncate_mem_of_edge edge inside cut
    simp only [cut, Except.ok.injEq] at floored
    by_cases edging : near = -bound
    · have level : isBelow near x = false := by
        unfold isBelow
        rw [sub_eq_of_unpack (lowest edging), edging]
        simp only [edge.level, Bool.false_and]
      rw [level] at floored
      simp only [Bool.false_eq_true, ↓reduceIte] at floored
      omega
    · split_ifs at floored <;> omega

instance : Scalar.Grounded Float where
  truncate_mem := by
    intro x near inside cut
    obtain ⟨low, high, -⟩ := truncate_mem_of_edge edge_180 inside cut
    exact ⟨low, high⟩

end Decimal

instance : Scalar.Grounded Rat where
  truncate_mem := by
    intro x near inside cut
    cases cut
    have range : (-180 : Rat) ≤ x ∧ x ≤ 180 := by
      have both := Bool.and_eq_true_iff.mp inside
      exact ⟨by exact_mod_cast of_decide_eq_true both.1, by exact_mod_cast of_decide_eq_true both.2⟩
    unfold truncateRational
    split_ifs with positive
    · have low : 0 ≤ x.floor := Rat.le_floor_iff.mpr (by exact_mod_cast positive)
      have high : x.floor < 181 := Rat.floor_lt_iff.mpr (by push_cast; linarith)
      omega
    · have low : 0 ≤ (-x).floor := Rat.le_floor_iff.mpr (by push_cast; linarith)
      have high : (-x).floor < 181 := Rat.floor_lt_iff.mpr (by push_cast; linarith)
      omega

theorem snappedFloor_mem {α : Type} [Scalar α] [Scalar.Grounded α] {x : α} {n : Int}
    (inside : Place.inRange (-180) 180 x = true) (floored : snappedFloor x = .ok n) :
    -181 ≤ n ∧ n ≤ 180 := by
  unfold snappedFloor at floored
  cases cut : Scalar.truncate x with
  | error reason => simp [cut] at floored
  | ok near =>
    have bounds := Scalar.Grounded.truncate_mem x near inside cut
    simp only [cut, Except.ok.injEq] at floored
    split_ifs at floored <;> omega

theorem inRange_of_validate {α : Type} [Scalar α] {place : Place α} (valid : place.validate = .ok ()) :
    Place.inRange (-90) 90 place.lat = true ∧ Place.inRange (-180) 180 place.lon = true := by
  unfold Place.validate at valid
  split_ifs at valid with lat lon
  exact ⟨by simpa using lat, by simpa using lon⟩

theorem snappedFloor_of_cell {α : Type} [Scalar α] {place : Place α} {cell : Cell}
    (located : place.cell = .ok cell) :
    snappedFloor place.lat = .ok cell.lat ∧ snappedFloor place.lon = .ok cell.lon := by
  unfold Place.cell coordinateFloor at located
  cases floored : snappedFloor place.lat with
  | error reason => simp [floored, Except.mapError] at located
  | ok row =>
    cases floored' : snappedFloor place.lon with
    | error reason => simp [floored, floored', Except.mapError] at located
    | ok column =>
      simp only [floored, floored', Except.mapError, Except.ok.injEq] at located
      exact ⟨by rw [← located], by rw [← located]⟩

theorem cell_mem_globe {place : Place Float} {cell : Cell} (valid : place.validate = .ok ())
    (located : place.cell = .ok cell) :
    (-90 ≤ cell.lat ∧ cell.lat ≤ 90) ∧ -180 ≤ cell.lon ∧ cell.lon ≤ 180 := by
  obtain ⟨lat, lon⟩ := inRange_of_validate valid
  obtain ⟨floored, floored'⟩ := snappedFloor_of_cell located
  exact ⟨Decimal.snappedFloor_mem_of_edge Decimal.edge_90 lat floored,
    Decimal.snappedFloor_mem_of_edge Decimal.edge_180 lon floored'⟩

theorem cell_lon_mem {α : Type} [Scalar α] [Scalar.Grounded α] {place : Place α} {cell : Cell}
    (valid : place.validate = .ok ()) (located : place.cell = .ok cell) :
    -181 ≤ cell.lon ∧ cell.lon ≤ 180 :=
  snappedFloor_mem (inRange_of_validate valid).2 (snappedFloor_of_cell located).2

end Elevation
