import Elevation.Proofs.Tile.Summaries
import Elevation.Tile.Picture

/-!
The colours of a terrain picture, over exact rationals. Along the ramp red and blue do not fall and
green does not rise; so all its colours lie between those of its two ends, higher ground never looks
lower, and since green never vanishes, no height has the colour of a void.
-/

namespace Elevation

/-- A colour on the ramp that stands for ground which is not higher. -/
structure Colour.Below (colour other : Colour) : Prop where
  red : colour.red ≤ other.red
  green : other.green ≤ colour.green
  blue : colour.blue ≤ other.blue

structure Tile.Shows (tile : Tile) (row column : Nat) (height : Int) : Prop where
  row_lt : row < tile.width
  column_lt : column < tile.width
  sample : tile.sampleAt row column = height
  proper : height ≠ Tile.voidHeight

namespace Terrain

variable {x y : Rat} {range : Int × Int} {height higher : Int} {tile : Tile}

def lowestColour : Colour := ⟨55, 255, 55⟩
def highestColour : Colour := ⟨255, 155, 255⟩

/-! ### The ramp -/

theorem unit_rat (x : Rat) : unit x = max 0 (min x 1) := by
  change (if decide (x < ((0 : Int) : Rat)) = true then ((0 : Int) : Rat)
    else if decide (((1 : Int) : Rat) < x) = true then ((1 : Int) : Rat) else x) = _
  simp only [decide_eq_true_eq, Int.cast_zero, Int.cast_one]
  split_ifs with low high
  · rw [min_eq_left (by linarith), max_eq_left low.le]
  · rw [min_eq_right high.le, max_eq_right zero_le_one]
  · rw [min_eq_left (not_lt.mp high), max_eq_right (not_lt.mp low)]

theorem unit_nonneg (x : Rat) : 0 ≤ unit x := by
  rw [unit_rat]
  exact le_max_left 0 _

theorem unit_le_one (x : Rat) : unit x ≤ 1 := by
  rw [unit_rat]
  exact max_le zero_le_one (min_le_right x 1)

theorem unit_mono (order : x ≤ y) : unit x ≤ unit y := by
  rw [unit_rat, unit_rat]
  exact max_le_max_left 0 (min_le_min_right 1 order)

theorem channel_rat (nonneg : 0 ≤ x) : channel x = (x * 200 + 55).floor := by
  change truncateRational (x * ((200 : Int) : Rat) + ((55 : Int) : Rat)) = _
  push_cast
  exact if_pos (by positivity)

theorem channel_unit_mono (order : x ≤ y) : channel (unit x) ≤ channel (unit y) := by
  rw [channel_rat (unit_nonneg x), channel_rat (unit_nonneg y)]
  have shares := unit_mono order
  exact Rat.floor_monotone (by linarith)

theorem ramp_mono (order : x ≤ y) : (ramp x).Below (ramp y) := by
  have half : (0 : Rat) ≤ Scalar.ratio 1 2 := by decide +kernel
  have threeHalves : (0 : Rat) ≤ Scalar.ratio 3 2 := by decide +kernel
  have two : (0 : Rat) ≤ Scalar.ofInt 2 := by decide +kernel
  have faster := mul_le_mul_of_nonneg_right order threeHalves
  have slower := mul_le_mul_of_nonneg_right order half
  exact ⟨channel_unit_mono (mul_le_mul_of_nonneg_right order two),
    channel_unit_mono (sub_le_sub_left slower _), channel_unit_mono (sub_le_sub_right faster _)⟩

theorem ramp_zero : ramp (0 : Rat) = lowestColour := by decide +kernel

theorem ramp_one : ramp (1 : Rat) = highestColour := by decide +kernel

/-! ### Heights on the ramp -/

/-- The height that ends the ramp of a range; ground that is all level gets a ramp of one metre. -/
def topOf (range : Int × Int) : Int := if range.2 = range.1 then range.1 + 1 else range.2

theorem position_rat (range : Int × Int) (height : Int) :
    position range height = unit (((height - range.1 : Int) : Rat) / ((topOf range - range.1 : Int) : Rat)) := by
  rw [Int.cast_sub height]
  rfl

theorem topOf_pos (order : range.1 ≤ range.2) : 0 < topOf range - range.1 := by
  unfold topOf
  split_ifs <;> omega

theorem position_mono (ordered : range.1 ≤ range.2) (order : height ≤ higher) :
    (position range height : Rat) ≤ position range higher := by
  have positive : (0 : Rat) < ((topOf range - range.1 : Int) : Rat) := by exact_mod_cast topOf_pos ordered
  rw [position_rat, position_rat]
  apply unit_mono
  rw [div_le_div_iff_of_pos_right positive]
  exact_mod_cast (show height - range.1 ≤ higher - range.1 by omega)

theorem position_lowest (range : Int × Int) : (position range range.1 : Rat) = 0 := by
  rw [position_rat, sub_self, Int.cast_zero, zero_div]
  decide +kernel

theorem position_highest (steep : range.1 < range.2) : (position range range.2 : Rat) = 1 := by
  have positive : ((range.2 - range.1 : Int) : Rat) ≠ 0 := by
    exact_mod_cast (show range.2 - range.1 ≠ 0 by omega)
  rw [position_rat, topOf, if_neg (by omega), div_self positive]
  decide +kernel

theorem colourOf_height (proper : height ≠ Tile.voidHeight) :
    colourOf Rat range height = ramp (position range height : Rat) := if_neg proper

theorem colourOf_mono (ordered : range.1 ≤ range.2) (proper : height ≠ Tile.voidHeight)
    (proper' : higher ≠ Tile.voidHeight) (order : height ≤ higher) :
    (colourOf Rat range height).Below (colourOf Rat range higher) := by
  rw [colourOf_height proper, colourOf_height proper']
  exact ramp_mono (position_mono ordered order)

theorem colourOf_mem (range : Int × Int) (proper : height ≠ Tile.voidHeight) :
    lowestColour.Below (colourOf Rat range height) ∧ (colourOf Rat range height).Below highestColour := by
  rw [colourOf_height proper, ← ramp_zero, ← ramp_one]
  exact ⟨ramp_mono (unit_nonneg _), ramp_mono (unit_le_one _)⟩

theorem colourOf_eq_voidColour_iff : colourOf Rat range height = voidColour ↔ height = Tile.voidHeight := by
  constructor
  · intro magenta
    by_contra proper
    have green := (colourOf_mem range proper).2.green
    rw [magenta] at green
    exact absurd green (by decide)
  · rintro rfl
    exact if_pos rfl

/-! ### Pictures -/

theorem mem_heights_iff_shows : height ∈ tile.heights ↔ ∃ row column, tile.Shows row column height := by
  rw [Tile.mem_heights_iff]
  constructor
  · rintro ⟨proper, row, inRow, column, inColumn, sample⟩
    exact ⟨row, column, inRow, inColumn, sample, proper⟩
  · rintro ⟨row, column, shown⟩
    exact ⟨shown.proper, row, shown.row_lt, column, shown.column_lt, shown.sample⟩

theorem colourOf_eq_lowest (present : height ∈ tile.heights) (least : ∀ other ∈ tile.heights, height ≤ other) :
    colourOf Rat tile.heightRange height = lowestColour := by
  have spans := (Tile.isLeast_rangeOf (List.ne_nil_of_mem present)).1
  have lowest : height = tile.heightRange.1 := IsLeast.unique ⟨present, least⟩ spans
  rw [colourOf_height (Tile.mem_heights_iff.mp present).1, lowest, position_lowest, ramp_zero]

theorem colourOf_eq_highest (present : height ∈ tile.heights) (most : ∀ other ∈ tile.heights, other ≤ height)
    {other : Int} (lower : other ∈ tile.heights) (steep : other ≠ height) :
    colourOf Rat tile.heightRange height = highestColour := by
  obtain ⟨least, greatest⟩ := Tile.isLeast_rangeOf (List.ne_nil_of_mem present)
  have highest : height = tile.heightRange.2 := IsGreatest.unique ⟨present, most⟩ greatest
  have below : tile.heightRange.1 < tile.heightRange.2 := by
    rw [← highest]
    exact (least.2 lower).trans_lt (lt_of_le_of_ne (most other lower) steep)
  rw [colourOf_height (Tile.mem_heights_iff.mp present).1, highest, position_highest below, ramp_one]

/-- The terrain picture of a tile with at least one height has the colour of voids at exactly the voids.
All other colours are on the ramp, in the order of the heights; the lowest ground has the colour of one
end, and the highest that of the other unless all is level. -/
theorem picture_ranks (tile : Tile) (some : ∃ row column height, tile.Shows row column height) :
    ∃ pixel : Nat → Nat → Colour, picture Rat tile = .colour tile.width tile.width pixel ∧
      (∀ row column, row < tile.width → column < tile.width →
        (pixel row column = ⟨255, 0, 255⟩ ↔ tile.sampleAt row column = Tile.voidHeight)) ∧
      (∀ row column height, tile.Shows row column height →
        (55 ≤ (pixel row column).red ∧ (pixel row column).red ≤ 255) ∧
        (155 ≤ (pixel row column).green ∧ (pixel row column).green ≤ 255) ∧
        55 ≤ (pixel row column).blue ∧ (pixel row column).blue ≤ 255) ∧
      (∀ row column height row' column' height', tile.Shows row column height →
        tile.Shows row' column' height' → height ≤ height' →
          (pixel row column).Below (pixel row' column')) ∧
      (∀ row column height, tile.Shows row column height →
        (∀ row' column' other, tile.Shows row' column' other → height ≤ other) →
          pixel row column = ⟨55, 255, 55⟩) ∧
      ∀ row column height, tile.Shows row column height →
        (∀ row' column' other, tile.Shows row' column' other → other ≤ height) →
        (∃ row' column' other, tile.Shows row' column' other ∧ other ≠ height) →
          pixel row column = ⟨255, 155, 255⟩ := by
  obtain ⟨row, column, height, shown⟩ := some
  have present : height ∈ tile.heights := mem_heights_iff_shows.mpr ⟨row, column, shown⟩
  have spans := Tile.isLeast_rangeOf (List.ne_nil_of_mem present)
  have ordered : tile.heightRange.1 ≤ tile.heightRange.2 := (spans.1.2 present).trans (spans.2.2 present)
  refine ⟨fun row column => colourOf Rat tile.heightRange (tile.sampleAt row column), ?_,
    fun _ _ _ _ => colourOf_eq_voidColour_iff, ?_, ?_, ?_, ?_⟩
  · exact if_neg (by simpa using List.ne_nil_of_mem present)
  · rintro row column _ ⟨-, -, rfl, proper⟩
    obtain ⟨low, high⟩ := colourOf_mem tile.heightRange proper
    exact ⟨⟨low.red, high.red⟩, ⟨high.green, low.green⟩, low.blue, high.blue⟩
  · rintro row column _ row' column' _ ⟨-, -, rfl, proper⟩ ⟨-, -, rfl, proper'⟩ order
    exact colourOf_mono ordered proper proper' order
  · rintro row column height shown least
    dsimp only
    rw [shown.sample]
    refine colourOf_eq_lowest (mem_heights_iff_shows.mpr ⟨row, column, shown⟩) fun other listed => ?_
    obtain ⟨row', column', shown'⟩ := mem_heights_iff_shows.mp listed
    exact least row' column' other shown'
  · rintro row column height shown most ⟨row', column', other, shown', steep⟩
    dsimp only
    rw [shown.sample]
    refine colourOf_eq_highest (mem_heights_iff_shows.mpr ⟨row, column, shown⟩) (fun other listed => ?_)
      (mem_heights_iff_shows.mpr ⟨row', column', shown'⟩) steep
    obtain ⟨row', column', shown'⟩ := mem_heights_iff_shows.mp listed
    exact most row' column' other shown'

/-- The first and the last sample of a tile with a void are its lowest and its highest ground. -/
theorem picture_ranks_dale : ∃ pixel : Nat → Nat → Colour,
    picture Rat Tile.dale = .colour 3 3 pixel ∧ pixel 0 0 = ⟨55, 255, 55⟩ ∧
      pixel 1 1 = ⟨255, 0, 255⟩ ∧ pixel 2 2 = ⟨255, 155, 255⟩ := by
  have first : Tile.dale.Shows 0 0 7 := ⟨by decide, by decide, by decide, by decide⟩
  have last : Tile.dale.Shows 2 2 15 := ⟨by decide, by decide, by decide, by decide⟩
  obtain ⟨pixel, drawn, voids, -, -, low, high⟩ := picture_ranks Tile.dale ⟨0, 0, 7, first⟩
  have span : ∀ height ∈ Tile.dale.heights, 7 ≤ height ∧ height ≤ 15 := by decide
  refine ⟨pixel, drawn, low 0 0 7 first fun row column other shown => ?_,
    (voids 1 1 (by decide) (by decide)).mpr (by decide),
    high 2 2 15 last (fun row column other shown => ?_) ⟨0, 0, 7, first, by decide⟩⟩
  · exact (span other (mem_heights_iff_shows.mpr ⟨row, column, shown⟩)).1
  · exact (span other (mem_heights_iff_shows.mpr ⟨row, column, shown⟩)).2

end Terrain

end Elevation
