import Mathlib
import Elevation.Tile.Hillshade

/-!
Shaded relief over the real numbers. In a plane, Horn's differences are its slopes, and the brightness
of a node is the cosine of the angle between the ground and a light. That light is not quite the one
that was asked for: it has east and west exchanged, and its altitude is counted from the zenith.
-/

namespace Elevation

/-! ### Real numbers -/

/-- The integer nearest to a real number, a tie going to the even one. -/
noncomputable def nearestToReal (x : ℝ) : Int :=
  if Int.fract x < 1 / 2 then ⌊x⌋
  else if 1 / 2 < Int.fract x then ⌊x⌋ + 1
  else ⌊x⌋ + ⌊x⌋ % 2

/-- Real numbers are exact. Those that are no quotients have no text. -/
noncomputable instance : Scalar ℝ where
  ofInt n := n
  holds _ := true
  lt x y := decide (x < y)
  le x y := decide (x ≤ y)
  truncate x := .ok (if 0 ≤ x then ⌊x⌋ else ⌈x⌉)
  floor x := .ok ⌊x⌋
  nearest x := .ok (nearestToReal x)
  tenths x := (nearestToReal (x * 10) : ℝ) / 10
  text x :=
    open Classical in
    if quotient : ∃ q : Rat, (q : ℝ) = x then Scalar.text quotient.choose else ""

noncomputable instance : Trigonometry ℝ where
  sqrt := Real.sqrt
  arctan := Real.arctan
  arctan2 y x := Complex.arg ⟨x, y⟩
  sin := Real.sin
  cos := Real.cos
  radians degrees := degrees * (Real.pi / 180)

namespace Relief

variable {relief : Relief ℝ} {light : Light ℝ} {cellWidth cellHeight base east north : ℝ}

/-! ### Light on a slope -/

/-- A direction, by its parts towards the east, the north and the sky. -/
structure Ray where
  east : ℝ
  north : ℝ
  up : ℝ

def Ray.dot (ray other : Ray) : ℝ := ray.east * other.east + ray.north * other.north + ray.up * other.up

/-- The direction that stands upright on ground which rises so much to the east and to the north. -/
noncomputable def upright (east north : ℝ) : Ray :=
  let length := Real.sqrt (1 + east ^ 2 + north ^ 2)
  ⟨-east / length, -north / length, 1 / length⟩

/-- The direction of a light, its azimuth being counted clockwise from the north and its altitude from
the horizon, both in degrees. -/
noncomputable def Ray.towards (light : Light ℝ) : Ray :=
  let azimuth : ℝ := Trigonometry.radians light.azimuth
  let altitude : ℝ := Trigonometry.radians light.altitude
  ⟨Real.cos altitude * Real.sin azimuth, Real.cos altitude * Real.cos azimuth, Real.sin altitude⟩

noncomputable def incidence (light : Light ℝ) (east north : ℝ) : ℝ :=
  (upright (light.exaggeration * east) (light.exaggeration * north)).dot (.towards light)

/-- The brightness of ground on which a light falls; ground that faces away from it is dark. -/
noncomputable def lit (light : Light ℝ) (east north : ℝ) : ℝ := 255 * max 0 (incidence light east north)

/-- The light with east and west exchanged and the altitude counted from the zenith. -/
noncomputable def mirrored (light : Light ℝ) : Light ℝ :=
  ⟨-light.azimuth, 90 - light.altitude, light.exaggeration⟩

theorem length_sq_pos (east north : ℝ) : 0 < 1 + east ^ 2 + north ^ 2 := by positivity

theorem dot_self_upright (east north : ℝ) : (upright east north).dot (upright east north) = 1 := by
  have positive := length_sq_pos east north
  have square := Real.mul_self_sqrt positive.le
  have length := (Real.sqrt_pos.mpr positive).ne'
  simp only [Ray.dot, upright]
  field_simp
  rw [sq (Real.sqrt _), square]
  ring

theorem dot_self_towards (light : Light ℝ) : (Ray.towards light).dot (.towards light) = 1 := by
  simp only [Ray.dot, Ray.towards]
  generalize (Trigonometry.radians light.azimuth : ℝ) = azimuth
  generalize (Trigonometry.radians light.altitude : ℝ) = altitude
  have around := Real.sin_sq_add_cos_sq azimuth
  have above := Real.sin_sq_add_cos_sq altitude
  linear_combination Real.cos altitude ^ 2 * around + above

theorem Ray.dot_le_one {ray other : Ray} (unit : ray.dot ray = 1) (unit' : other.dot other = 1) :
    ray.dot other ≤ 1 := by
  unfold Ray.dot at unit unit' ⊢
  nlinarith [sq_nonneg (ray.east - other.east), sq_nonneg (ray.north - other.north),
    sq_nonneg (ray.up - other.up)]

theorem incidence_le_one (light : Light ℝ) (east north : ℝ) : incidence light east north ≤ 1 :=
  Ray.dot_le_one (dot_self_upright _ _) (dot_self_towards light)

/-! ### Brightness -/

theorem brightness_real (light : Light ℝ) (east north : ℝ) :
    brightness light east north =
      let direction := (360 - light.azimuth + 90) * (Real.pi / 180)
      let altitude := light.altitude * (Real.pi / 180)
      let slope := Real.arctan (Real.sqrt (east * east + north * north))
      Scalar.clamp 0 255 (255 * (Real.cos altitude * Real.cos slope
        + Real.sin altitude * Real.sin slope * Real.cos (direction - Complex.arg ⟨east, -north⟩))) := by
  have whole : brightness light east north =
      let direction := (((360 : Int) : ℝ) - light.azimuth + ((90 : Int) : ℝ)) * (Real.pi / 180)
      let altitude := light.altitude * (Real.pi / 180)
      let slope := Real.arctan (Real.sqrt (east * east + north * north))
      Scalar.clamp ((0 : Int) : ℝ) ((255 : Int) : ℝ) (((255 : Int) : ℝ) * (Real.cos altitude * Real.cos slope
        + Real.sin altitude * Real.sin slope
          * Real.cos (direction - Complex.arg ⟨east, ((0 : Int) : ℝ) - north⟩))) := rfl
  push_cast at whole
  rw [whole, zero_sub]

theorem clamp_real (high x : ℝ) (least : 0 ≤ high) : Scalar.clamp 0 high x = max 0 (min high x) := by
  have below : Scalar.lt x 0 = decide (x < 0) := rfl
  have above : Scalar.lt high x = decide (high < x) := rfl
  unfold Scalar.clamp
  simp only [below, above, decide_eq_true_eq]
  split_ifs with dark bright
  · rw [max_eq_left ((min_le_right high x).trans dark.le)]
  · rw [min_eq_left bright.le, max_eq_right least]
  · rw [min_eq_right (not_lt.mp bright), max_eq_right (not_lt.mp dark)]

/-- The light comes from the azimuth as a compass has it. -/
theorem cos_direction (azimuth : ℝ) :
    Real.cos ((360 - azimuth + 90) * (Real.pi / 180)) = Real.sin (azimuth * (Real.pi / 180)) ∧
      Real.sin ((360 - azimuth + 90) * (Real.pi / 180)) = Real.cos (azimuth * (Real.pi / 180)) := by
  have turned : (360 - azimuth + 90) * (Real.pi / 180) =
      Real.pi / 2 - azimuth * (Real.pi / 180) + 2 * Real.pi := by ring
  rw [turned, Real.cos_add_two_pi, Real.sin_add_two_pi, Real.cos_pi_div_two_sub, Real.sin_pi_div_two_sub]
  exact ⟨rfl, rfl⟩

/-- The steepest rise of a slope, in parts: the aspect leads towards the east and away from the north. -/
theorem steepness_mul_cos_sub (direction east north : ℝ) :
    Real.sqrt (east * east + north * north) * Real.cos (direction - Complex.arg ⟨east, -north⟩) =
      east * Real.cos direction - north * Real.sin direction := by
  have length : ‖(⟨east, -north⟩ : ℂ)‖ = Real.sqrt (east * east + north * north) := by
    rw [Complex.norm_def, Complex.normSq_mk, neg_mul_neg]
  have along := Complex.norm_mul_cos_arg ⟨east, -north⟩
  have across := Complex.norm_mul_sin_arg ⟨east, -north⟩
  rw [length] at along across
  rw [Real.cos_sub]
  linear_combination Real.cos direction * along + Real.sin direction * across

theorem towards_mirrored (light : Light ℝ) : Ray.towards (mirrored light) =
    ⟨-(Real.sin (light.altitude * (Real.pi / 180)) * Real.sin (light.azimuth * (Real.pi / 180))),
      Real.sin (light.altitude * (Real.pi / 180)) * Real.cos (light.azimuth * (Real.pi / 180)),
      Real.cos (light.altitude * (Real.pi / 180))⟩ := by
  have azimuth : (Trigonometry.radians (-light.azimuth) : ℝ) = -(light.azimuth * (Real.pi / 180)) :=
    neg_mul _ _
  have altitude : (Trigonometry.radians (90 - light.altitude) : ℝ) =
      Real.pi / 2 - light.altitude * (Real.pi / 180) := by
    change (90 - light.altitude) * (Real.pi / 180) = _
    ring
  simp only [Ray.towards, mirrored, azimuth, altitude, Real.cos_pi_div_two_sub, Real.sin_pi_div_two_sub,
    Real.sin_neg, Real.cos_neg, mul_neg]

theorem incidence_mirrored (light : Light ℝ) (east north : ℝ) :
    let azimuth := light.azimuth * (Real.pi / 180)
    let altitude := light.altitude * (Real.pi / 180)
    incidence (mirrored light) east north =
      (Real.cos altitude + Real.sin altitude * (light.exaggeration * east * Real.sin azimuth
        - light.exaggeration * north * Real.cos azimuth))
          / Real.sqrt (1 + (light.exaggeration * east) ^ 2 + (light.exaggeration * north) ^ 2) := by
  simp only [incidence, towards_mirrored, Ray.dot, upright]
  rw [show (mirrored light).exaggeration = light.exaggeration from rfl]
  ring

/-- The slope and its aspect give the incidence of the mirrored light. -/
theorem cos_slope_add_sin_slope (light : Light ℝ) (east north : ℝ) :
    let direction := (360 - light.azimuth + 90) * (Real.pi / 180)
    let altitude := light.altitude * (Real.pi / 180)
    let rise := light.exaggeration * east
    let fall := light.exaggeration * north
    let slope := Real.arctan (Real.sqrt (rise * rise + fall * fall))
    Real.cos altitude * Real.cos slope
        + Real.sin altitude * Real.sin slope * Real.cos (direction - Complex.arg ⟨rise, -fall⟩) =
      incidence (mirrored light) east north := by
  intro direction altitude rise fall slope
  obtain ⟨cosine, sine⟩ := cos_direction light.azimuth
  have steep := steepness_mul_cos_sub direction rise fall
  have square : Real.sqrt (rise * rise + fall * fall) ^ 2 = rise * rise + fall * fall :=
    Real.sq_sqrt (add_nonneg (mul_self_nonneg rise) (mul_self_nonneg fall))
  have length : 1 + (rise * rise + fall * fall) = 1 + rise ^ 2 + fall ^ 2 := by ring
  rw [cosine, sine] at steep
  rw [incidence_mirrored, Real.cos_arctan, Real.sin_arctan, square, length]
  calc _ = (Real.cos altitude + Real.sin altitude * (Real.sqrt (rise * rise + fall * fall)
          * Real.cos (direction - Complex.arg ⟨rise, -fall⟩))) /
            Real.sqrt (1 + rise ^ 2 + fall ^ 2) := by ring
    _ = _ := by rw [steep]

/-- The brightness of a slope is that of ground on which the mirrored light falls. -/
theorem brightness_eq_lit (light : Light ℝ) (east north : ℝ) :
    brightness light (east * light.exaggeration) (north * light.exaggeration) =
      lit (mirrored light) east north := by
  have most := incidence_le_one (mirrored light) east north
  have cosine := cos_slope_add_sin_slope light east north
  simp only at cosine
  rw [mul_comm east, mul_comm north, brightness_real]
  simp only
  rw [cosine, clamp_real _ _ (by norm_num), lit, min_eq_right (by linarith),
    mul_max_of_nonneg _ _ (by norm_num), mul_zero]

/-! ### Planes -/

/-- A relief sampled from a plane: columns run towards the east and rows towards the south. -/
def IsPlane (relief : Relief ℝ) (cellWidth cellHeight base east north : ℝ) : Prop :=
  ∀ row < relief.rows, ∀ column < relief.columns,
    relief.height? row column = some (base + east * (cellWidth * column) - north * (cellHeight * row))

theorem IsPlane.padded (plane : relief.IsPlane cellWidth cellHeight base east north) {row column : Nat}
    (inRow : row + 2 < relief.rows) (inColumn : column + 2 < relief.columns) {down right : Nat}
    (near : down ≤ 2) (near' : right ≤ 2) :
    relief.padded (row + 1 + down) (column + 1 + right) =
      base + east * (cellWidth * (column + right)) - north * (cellHeight * (row + down)) := by
  have level : min (row + 1 + down - 1) (relief.rows - 1) = row + down := by omega
  have across : min (column + 1 + right - 1) (relief.columns - 1) = column + right := by omega
  unfold Relief.padded
  rw [level, across, plane _ (by omega) _ (by omega)]
  push_cast
  rfl

theorem weighted_real (a b c : ℝ) : weighted a b c = a + 2 * b + c := by
  have two : (Scalar.ofInt 2 : ℝ) = 2 := Int.cast_ofNat 2
  unfold weighted
  rw [two]

theorem IsPlane.slopeEast (plane : relief.IsPlane cellWidth cellHeight base east north)
    (wide : 0 < cellWidth) {row column : Nat} (inRow : row + 2 < relief.rows)
    (inColumn : column + 2 < relief.columns) :
    relief.slopeEast cellWidth (row + 1) (column + 1) = east := by
  have whole : relief.slopeEast cellWidth (row + 1) (column + 1) =
      (weighted (relief.padded (row + 1 + 0) (column + 1 + 2)) (relief.padded (row + 1 + 1) (column + 1 + 2))
          (relief.padded (row + 1 + 2) (column + 1 + 2))
        - weighted (relief.padded (row + 1 + 0) (column + 1 + 0)) (relief.padded (row + 1 + 1) (column + 1 + 0))
          (relief.padded (row + 1 + 2) (column + 1 + 0))) / (((8 : Int) : ℝ) * cellWidth) := rfl
  rw [whole]
  simp only [plane.padded inRow inColumn, weighted_real, Nat.zero_le, Nat.one_le_ofNat, le_refl]
  push_cast
  field_simp
  ring

theorem IsPlane.slopeNorth (plane : relief.IsPlane cellWidth cellHeight base east north)
    (tall : 0 < cellHeight) {row column : Nat} (inRow : row + 2 < relief.rows)
    (inColumn : column + 2 < relief.columns) :
    relief.slopeNorth cellHeight (row + 1) (column + 1) = north := by
  have whole : relief.slopeNorth cellHeight (row + 1) (column + 1) =
      (weighted (relief.padded (row + 1 + 0) (column + 1 + 0)) (relief.padded (row + 1 + 0) (column + 1 + 1))
          (relief.padded (row + 1 + 0) (column + 1 + 2))
        - weighted (relief.padded (row + 1 + 2) (column + 1 + 0)) (relief.padded (row + 1 + 2) (column + 1 + 1))
          (relief.padded (row + 1 + 2) (column + 1 + 2))) / (((8 : Int) : ℝ) * cellHeight) := rfl
  rw [whole]
  simp only [plane.padded inRow inColumn, weighted_real, Nat.zero_le, Nat.one_le_ofNat, le_refl]
  push_cast
  field_simp
  ring

/-- An inner node of a plane is as bright as the mirrored light makes the plane. -/
theorem IsPlane.shadeAt (plane : relief.IsPlane cellWidth cellHeight base east north)
    (wide : 0 < cellWidth) (tall : 0 < cellHeight) (light : Light ℝ) {row column : Nat} (inner : 0 < row)
    (inner' : 0 < column) (inRow : row + 1 < relief.rows) (inColumn : column + 1 < relief.columns) :
    relief.shadeAt cellWidth cellHeight light row column = lit (mirrored light) east north := by
  obtain ⟨row, rfl⟩ := Nat.exists_eq_add_one.mpr inner
  obtain ⟨column, rfl⟩ := Nat.exists_eq_add_one.mpr inner'
  have rise := plane.slopeEast wide inRow inColumn
  have climb := plane.slopeNorth tall inRow inColumn
  rw [← brightness_eq_lit]
  unfold Relief.shadeAt
  rw [rise, climb]

/-! ### Pictures -/

theorem validLight_real (light : Light ℝ) : validLight light = .ok () := rfl

theorem shade_real (relief : Relief ℝ) (cellWidth cellHeight : ℝ) (light : Light ℝ)
    (rows : 0 < relief.rows) (columns : 0 < relief.columns) : ∃ picture,
    relief.shade cellWidth cellHeight light = .ok picture ∧
      ∀ row < relief.rows, ∀ column < relief.columns, (picture[row]?.bind (·[column]?)) =
        some (relief.shadeAt cellWidth cellHeight light row column) := by
  have nonempty : relief.nonempty = .ok () := by
    rw [Relief.nonempty, if_neg rows.ne', if_neg columns.ne']
  unfold shade
  rw [nonempty, validLight_real]
  refine ⟨_, rfl, fun row inRow column inColumn => ?_⟩
  simp [inRow, inColumn]

theorem IsPlane.shade (plane : relief.IsPlane cellWidth cellHeight base east north)
    (wide : 0 < cellWidth) (tall : 0 < cellHeight) (rows : 3 ≤ relief.rows) (columns : 3 ≤ relief.columns)
    (light : Light ℝ) : ∃ picture, relief.shade cellWidth cellHeight light = .ok picture ∧
      ∀ row column, 0 < row → row + 1 < relief.rows → 0 < column → column + 1 < relief.columns →
        (picture[row]?.bind (·[column]?)) = some (lit (mirrored light) east north) := by
  obtain ⟨picture, shaded, nodes⟩ := shade_real relief cellWidth cellHeight light (by omega) (by omega)
  refine ⟨picture, shaded, fun row column inner inRow inner' inColumn => ?_⟩
  rw [nodes row (by omega) column (by omega), plane.shadeAt wide tall light inner inner' inRow inColumn]

/-! ### The light that was asked for -/

theorem incidence_real (light : Light ℝ) (east north : ℝ) :
    let azimuth := light.azimuth * (Real.pi / 180)
    let altitude := light.altitude * (Real.pi / 180)
    incidence light east north =
      (Real.sin altitude - Real.cos altitude * (light.exaggeration * east * Real.sin azimuth
        + light.exaggeration * north * Real.cos azimuth))
          / Real.sqrt (1 + (light.exaggeration * east) ^ 2 + (light.exaggeration * north) ^ 2) := by
  have radians (degrees : ℝ) : (Trigonometry.radians degrees : ℝ) = degrees * (Real.pi / 180) := rfl
  simp only [incidence, Ray.towards, Ray.dot, upright, radians]
  ring

/-- How far the mirrored light is from the one that was asked for, on ground of some slope. -/
noncomputable def imbalance (light : Light ℝ) (east north : ℝ) : ℝ :=
  let azimuth := light.azimuth * (Real.pi / 180)
  let altitude := light.altitude * (Real.pi / 180)
  (Real.cos altitude - Real.sin altitude) * (1 + light.exaggeration * north * Real.cos azimuth)
    + (Real.cos altitude + Real.sin altitude) * (light.exaggeration * east * Real.sin azimuth)

theorem incidence_mirrored_eq_iff (light : Light ℝ) (east north : ℝ) :
    incidence (mirrored light) east north = incidence light east north ↔ imbalance light east north = 0 := by
  have length : Real.sqrt (1 + (light.exaggeration * east) ^ 2 + (light.exaggeration * north) ^ 2) ≠ 0 :=
    (Real.sqrt_pos.mpr (length_sq_pos _ _)).ne'
  rw [incidence_mirrored, incidence_real, div_left_inj' length, ← sub_eq_zero, imbalance]
  constructor <;> intro balanced <;> linear_combination balanced

theorem max_zero_eq_max_zero_iff (x y : ℝ) : max 0 x = max 0 y ↔ x = y ∨ x ≤ 0 ∧ y ≤ 0 := by
  rcases le_total x 0 with dark | bright
  · rw [max_eq_left dark, eq_comm, max_eq_left_iff]
    exact ⟨fun dark' => Or.inr ⟨dark, dark'⟩,
      fun either => either.elim (fun same => same ▸ dark) And.right⟩
  · rw [max_eq_right bright]
    grind

/-- The mirrored light is as good as the one that was asked for where the two balance, and on ground
that faces away from both. -/
theorem lit_mirrored_eq_iff (light : Light ℝ) (east north : ℝ) :
    lit (mirrored light) east north = lit light east north ↔ imbalance light east north = 0 ∨
      incidence (mirrored light) east north ≤ 0 ∧ incidence light east north ≤ 0 := by
  rw [lit, lit, mul_right_inj' (by norm_num), max_zero_eq_max_zero_iff, incidence_mirrored_eq_iff]

/-- A plane is shaded by the light with east and west exchanged and the altitude counted from the
zenith: an inner node has the brightness that this light gives it. That is the brightness in the light
that was asked for just where the two lights balance, or the ground faces away from both. -/
theorem shade_plane (plane : relief.IsPlane cellWidth cellHeight base east north)
    (wide : 0 < cellWidth) (tall : 0 < cellHeight) (rows : 3 ≤ relief.rows) (columns : 3 ≤ relief.columns)
    (light : Light ℝ) : ∃ picture, relief.shade cellWidth cellHeight light = .ok picture ∧
      ∀ row column, 0 < row → row + 1 < relief.rows → 0 < column → column + 1 < relief.columns →
        ∃ value, (picture[row]?.bind (·[column]?)) = some value ∧
          value = lit (mirrored light) east north ∧
          (value = lit light east north ↔ imbalance light east north = 0 ∨
            incidence (mirrored light) east north ≤ 0 ∧ incidence light east north ≤ 0) := by
  obtain ⟨picture, shaded, nodes⟩ := plane.shade wide tall rows columns light
  refine ⟨picture, shaded, fun row column inner inRow inner' inColumn => ?_⟩
  exact ⟨_, nodes row column inner inRow inner' inColumn, rfl, lit_mirrored_eq_iff light east north⟩

noncomputable def ramp (east : ℝ) : Relief ℝ := ⟨3, 3, fun _ column => some (east * column)⟩

theorem isPlane_ramp (east : ℝ) : (ramp east).IsPlane 1 1 0 east 0 := by
  intro row _ column _
  simp [ramp]

theorem radians_half : (45 : ℝ) * (Real.pi / 180) = Real.pi / 4 := by ring

/-- Light from the north, half-way up, falls on a ramp to the east as it should. -/
theorem shade_plane_ramp : (ramp 1).IsPlane 1 1 0 1 0 ∧ ∃ picture,
    (ramp 1).shade 1 1 ⟨0, 45, 1⟩ = .ok picture ∧
      (picture[1]?.bind (·[1]?)) = some (lit ⟨0, 45, 1⟩ 1 0) := by
  obtain ⟨picture, shaded, nodes⟩ :=
    shade_plane (isPlane_ramp 1) one_pos one_pos (by decide) (by decide) ⟨0, 45, 1⟩
  have balanced : imbalance ⟨0, 45, 1⟩ 1 0 = 0 := by
    simp only [imbalance, radians_half, Real.cos_pi_div_four, Real.sin_pi_div_four, zero_mul, Real.sin_zero]
    ring
  obtain ⟨value, node, -, agrees⟩ := nodes 1 1 (by decide) (by decide) (by decide) (by decide)
  rw [agrees.mpr (Or.inl balanced)] at node
  exact ⟨isPlane_ramp 1, picture, shaded, node⟩

/-- Ground that rises to the east is brightest in light from the east, to which it turns its back; and
level ground is dark under a light in the zenith. -/
theorem shade_plane_turned :
    (∃ picture, (ramp 1).shade 1 1 ⟨90, 45, 1⟩ = .ok picture ∧ (picture[1]?.bind (·[1]?)) = some 255 ∧
      lit ⟨90, 45, 1⟩ 1 0 = 0) ∧
    ∃ picture, (ramp 0).shade 1 1 ⟨315, 90, 1⟩ = .ok picture ∧ (picture[1]?.bind (·[1]?)) = some 0 ∧
      lit ⟨315, 90, 1⟩ 0 0 = 255 := by
  have quarter : (90 : ℝ) * (Real.pi / 180) = Real.pi / 2 := by ring
  obtain ⟨picture, shaded, nodes⟩ :=
    (isPlane_ramp 1).shade one_pos one_pos (by decide) (by decide) ⟨90, 45, 1⟩
  obtain ⟨picture', shaded', nodes'⟩ :=
    (isPlane_ramp 0).shade one_pos one_pos (by decide) (by decide) ⟨315, 90, 1⟩
  have node := nodes 1 1 (by decide) (by decide) (by decide) (by decide)
  have node' := nodes' 1 1 (by decide) (by decide) (by decide) (by decide)
  have bright : lit (mirrored ⟨90, 45, 1⟩) 1 0 = 255 := by
    rw [lit, incidence_mirrored]
    simp only [quarter, radians_half, Real.cos_pi_div_four, Real.sin_pi_div_four, Real.sin_pi_div_two]
    have whole : (Real.sqrt 2 / 2 + Real.sqrt 2 / 2 * (1 * 1 * 1 - 1 * 0 * Real.cos (Real.pi / 2)))
        / Real.sqrt (1 + (1 * 1) ^ 2 + (1 * 0) ^ 2) = 1 := by
      rw [show (1 + (1 * 1) ^ 2 + (1 * 0) ^ 2 : ℝ) = 2 by norm_num]
      field_simp
      ring
    rw [whole]
    norm_num
  have dark : lit (mirrored ⟨315, 90, 1⟩) 0 0 = 0 := by
    rw [lit, incidence_mirrored]
    simp only [quarter, Real.cos_pi_div_two]
    simp
  rw [bright] at node
  rw [dark] at node'
  refine ⟨⟨picture, shaded, node, ?_⟩, picture', shaded', node', ?_⟩
  · rw [lit, incidence_real]
    simp only [quarter, radians_half, Real.cos_pi_div_four, Real.sin_pi_div_four, Real.sin_pi_div_two]
    simp
  · rw [lit, incidence_real]
    simp only [quarter, Real.cos_pi_div_two, Real.sin_pi_div_two]
    simp

end Relief

end Elevation
