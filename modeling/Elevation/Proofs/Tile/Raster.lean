import Elevation.Proofs.Decimal.Grains
import Elevation.Proofs.Outcome
import Elevation.Proofs.Tile.Selection
import Elevation.Report.Artifact

/-!
The raster file of a tile against the look-up of places, over exact rationals. The centre of a pixel is
the node of its sample, so whoever reads the file sees at a place what the look-up of the place gives; and
the raster ends half a sample beyond the cell on every side.
-/

namespace Elevation

/-! ### Readers of raster files -/

namespace Raster

def pixel? {α : Type} (raster : Raster α) (row column : Nat) : Option Int :=
  (raster.bands.head?.bind fun band => band[row]?.bind (·[column]?)).filter (· ≠ raster.nodata)

/-- A file in plain longitudes and latitudes with one band, which has all rows and columns, and with
pixels that have an area. -/
structure IsReadable (raster : Raster Rat) : Prop where
  format : raster.driver = "GTiff" ∧ raster.dtype = "int16" ∧ raster.crs = 4326
  single : raster.count = 1 ∧ raster.bands.length = 1
  rows : ∀ band ∈ raster.bands, band.length = raster.height ∧ ∀ row ∈ band, row.length = raster.width
  area : raster.transform.a * raster.transform.e - raster.transform.b * raster.transform.d ≠ 0

/-- What is seen in a file at a place, by those who read such files: the sample of the pixel whose area
holds the place. A pixel holds its northern and its western edge. -/
def IsReader (seen : Raster Rat → Place Rat → Option Int) : Prop :=
  ∀ raster : Raster Rat, raster.IsReadable → ∀ row column : Nat, row < raster.height →
    column < raster.width → ∀ down right : Rat, 0 ≤ down → down < 1 → 0 ≤ right → right < 1 →
      seen raster (raster.transform.apply (column + right) (row + down)) = raster.pixel? row column

end Raster

namespace Tile

variable {tile : Tile} {row column : Nat}

/-- The raster of a tile begins half a sample north and west of its cell. -/
def placement (tile : Tile) : Affine Rat :=
  .ofOrigin (tile.cell.lon - 1 / stepsOf tile.width / 2) (tile.cell.lat + 1 + 1 / stepsOf tile.width / 2)
    (1 / stepsOf tile.width) (1 / stepsOf tile.width)

section

variable {α : Type} [Scalar α]

theorem spacing_of_wide (wide : 2 ≤ tile.width) :
    (tile.spacing : Except Failure α) = .ok (Scalar.ratio 1 ((tile.width : Int) - 1)) :=
  if_neg (by omega)

theorem transform_of_edges {spacing west north : α} (spaced : tile.spacing = .ok spacing)
    (isWest : degrees tile.cell.lon = .ok west) (isNorth : degrees (tile.cell.lat + 1) = .ok north) :
    tile.transform = .ok (.ofOrigin (west - halfOf spacing) (north + halfOf spacing) spacing spacing) := by
  simp only [transform, spaced, isWest, isNorth, Except.bind, Except.map]

end

theorem spacing_rat (wide : 2 ≤ tile.width) :
    (tile.spacing : Except Failure Rat) = .ok (1 / stepsOf tile.width) := by
  rw [spacing_of_wide wide]
  simp only [Scalar.ratio, Scalar.ofInt, stepsOf]
  push_cast
  rfl

theorem degrees_rat (n : Int) : (degrees n : Except Failure Rat) = .ok (n : Rat) := rfl

theorem edges_rat (tile : Tile) : (tile.edges : Except Failure (List Rat)) =
    .ok [(tile.cell.lon : Rat), (tile.cell.lat : Rat), tile.cell.lon + 1, tile.cell.lat + 1] := by
  have west : ((tile.cell.lon + 1 : Int) : Rat) = tile.cell.lon + 1 := by push_cast; rfl
  have south : ((tile.cell.lat + 1 : Int) : Rat) = tile.cell.lat + 1 := by push_cast; rfl
  rw [← west, ← south]
  rfl

theorem transform_rat (wide : 2 ≤ tile.width) : tile.transform = .ok tile.placement := by
  have north : ((tile.cell.lat + 1 : Int) : Rat) = tile.cell.lat + 1 := by push_cast; rfl
  rw [transform_of_edges (spacing_rat wide) (degrees_rat _) (degrees_rat _), placement, ← north]
  rfl

theorem placement_apply (tile : Tile) (column row : Rat) : tile.placement.apply column row =
    ⟨tile.cell.lat + 1 - (row - 1 / 2) / stepsOf tile.width,
      tile.cell.lon + (column - 1 / 2) / stepsOf tile.width⟩ := by
  simp only [placement, Affine.ofOrigin, Affine.apply, Scalar.ofInt, Place.mk.injEq]
  push_cast
  constructor <;> ring

theorem placement_centre (tile : Tile) (row column : Nat) :
    tile.placement.apply (column + 1 / 2) (row + 1 / 2) = tile.cell.node tile.width row column := by
  simp only [placement_apply, add_sub_cancel_right, Cell.node]

theorem width_sub_half_div (wide : 2 ≤ tile.width) :
    ((tile.width : Rat) - 1 / 2) / stepsOf tile.width = 1 + 1 / stepsOf tile.width / 2 := by
  have steps := (stepsOf_pos wide).ne'
  field_simp
  unfold stepsOf
  ring

theorem rows_getElem? (inRow : row < tile.width) (inColumn : column < tile.width) :
    tile.rows[row]?.bind (·[column]?) = some (tile.sampleAt row column) := by
  simp [rows, inRow, inColumn]

theorem isReadable_rasterAt (wide : 2 ≤ tile.width) : (tile.rasterAt tile.placement).IsReadable where
  format := ⟨rfl, rfl, rfl⟩
  single := ⟨rfl, rfl⟩
  rows := by
    intro band listed
    obtain rfl := List.mem_singleton.mp listed
    refine ⟨by simp [rows, rasterAt], ?_⟩
    intro row present
    obtain ⟨_, -, rfl⟩ := List.mem_map.mp present
    simp [rasterAt]
  area := by
    have steps := (stepsOf_pos wide).ne'
    simp [rasterAt, placement, Affine.ofOrigin, Scalar.ofInt, steps]

theorem pixel?_rasterAt {α : Type} (transform : Affine α) (inRow : row < tile.width)
    (inColumn : column < tile.width) : (tile.rasterAt transform).pixel? row column =
      if tile.sampleAt row column = voidHeight then none else some (tile.sampleAt row column) := by
  have sample := rows_getElem? inRow inColumn
  by_cases void : tile.sampleAt row column = voidHeight <;>
    simp [Raster.pixel?, rasterAt, sample, void, Option.filter]

theorem heightAt_node {α : Type} (wide : 2 ≤ tile.width) (transform : Affine α) (inRow : row < tile.width)
    (inColumn : column < tile.width) : tile.heightAt (tile.cell.node tile.width row column) =
      .ok ((tile.rasterAt transform).pixel? row column) := by
  rw [heightAt, indexAt_node wide inRow inColumn, pixel?_rasterAt transform inRow inColumn]
  rfl

theorem geotiff_of_transform {α : Type} [Scalar α] {transform : Affine α} (wide : 2 ≤ tile.width)
    (placed : tile.transform = .ok transform) : tile.geotiff = .ok (tile.rasterAt transform) := by
  rw [geotiff, placed]
  exact if_neg (by omega)

/-- The edges of a cell are no obstacle as long as doubles can have them. -/
theorem exists_transform (wide : 2 ≤ tile.width) (west : tile.cell.lon.natAbs ≤ 2 ^ 53)
    (north : (tile.cell.lat + 1).natAbs ≤ 2 ^ 53) :
    ∃ transform : Affine Float, tile.transform = .ok transform := by
  have exact (n : Int) (small : n.natAbs ≤ 2 ^ 53) : ∃ x : Float, degrees n = .ok x := by
    obtain ⟨x, held⟩ := Decimal.exists_ofInt?_of_isExact (Decimal.isExact_of_natAbs_le small)
    exact ⟨x, by rw [degrees, held]⟩
  obtain ⟨_, isWest⟩ := exact _ west
  obtain ⟨_, isNorth⟩ := exact _ north
  exact ⟨_, transform_of_edges (spacing_of_wide wide) isWest isNorth⟩

/-- The map from the raster of a tile to the globe takes the centre of each pixel to a place for which
the look-up has the sample of the pixel; the raster file of the tile is written, and what is seen in it at
that place is what the look-up reads there, nothing just where the sample is void. The corners of the
raster are half a sample beyond the corners of the tile. The file that is exported is this one, with the
map as doubles have it, and there is such a map wherever doubles have the edges of the cell, as they do on
the whole globe. -/
theorem transform_agrees (tile : Tile) (wide : 2 ≤ tile.width)
    {seen : Raster Rat → Place Rat → Option Int} (reader : Raster.IsReader seen) :
    ∃ (map : Affine Rat) (raster : Raster Rat) (spacing west south east north : Rat),
      tile.transform = .ok map ∧ tile.geotiff = .ok raster ∧ raster.transform = map ∧
      tile.spacing = .ok spacing ∧ tile.edges = .ok [west, south, east, north] ∧
      (∀ row column : Nat, row < tile.width → column < tile.width →
        let centre := map.apply (column + 1 / 2) (row + 1 / 2)
        tile.indexAt centre = .ok ((row : Int), (column : Int)) ∧
        tile.heightAt centre = .ok (seen raster centre) ∧
        (seen raster centre = none ↔ tile.sampleAt row column = -32768)) ∧
      map.apply 0 0 = ⟨north + spacing / 2, west - spacing / 2⟩ ∧
      map.apply tile.width 0 = ⟨north + spacing / 2, east + spacing / 2⟩ ∧
      map.apply 0 tile.width = ⟨south - spacing / 2, west - spacing / 2⟩ ∧
      map.apply tile.width tile.width = ⟨south - spacing / 2, east + spacing / 2⟩ ∧
      (tile.cell.lon.natAbs ≤ 2 ^ 53 → (tile.cell.lat + 1).natAbs ≤ 2 ^ 53 →
        ∃ transform : Affine Float, tile.transform = .ok transform) ∧
      ∀ transform : Affine Float, tile.transform = .ok transform →
        ∃ artifact, Report.exported tile = .ok artifact ∧
          artifact.content = .raster { raster with transform := transform } := by
  have far := width_sub_half_div wide
  have near : ((0 : Rat) - 1 / 2) / stepsOf tile.width = -(1 / stepsOf tile.width / 2) := by ring
  have placed := transform_rat wide
  refine ⟨tile.placement, tile.rasterAt tile.placement, _, _, _, _, _, placed,
    geotiff_of_transform wide placed, rfl, spacing_rat wide, tile.edges_rat, ?_, ?_⟩
  · intro row column inRow inColumn
    have pixel : seen (tile.rasterAt tile.placement)
        (tile.placement.apply (column + 1 / 2) (row + 1 / 2)) =
          (tile.rasterAt tile.placement).pixel? row column :=
      reader _ (isReadable_rasterAt wide) row column inRow inColumn (1 / 2) (1 / 2) (by norm_num)
        (by norm_num) (by norm_num) (by norm_num)
    simp only [pixel]
    rw [placement_centre]
    refine ⟨indexAt_node wide inRow inColumn, heightAt_node wide tile.placement inRow inColumn, ?_⟩
    rw [pixel?_rasterAt tile.placement inRow inColumn, ite_eq_left_iff]
    simp [voidHeight]
  · simp only [placement_apply, far, near, Place.mk.injEq]
    refine ⟨⟨?_, ?_⟩, ⟨?_, ?_⟩, ⟨?_, ?_⟩, ⟨?_, ?_⟩, exists_transform wide, ?_⟩
    any_goals ring
    intro transform asDoubles
    refine ⟨⟨tile, none, .raster (tile.rasterAt transform)⟩, ?_, rfl⟩
    rw [Report.exported, geotiff_of_transform wide asDoubles]
    rfl

/-- A reader that turns the map of a file round. -/
def seenAt (raster : Raster Rat) (place : Place Rat) : Option Int :=
  let map := raster.transform
  let east := place.lon - map.c
  let north := place.lat - map.f
  let area := map.a * map.e - map.b * map.d
  raster.pixel? ((map.a * north - map.d * east) / area).floor.toNat
    ((map.e * east - map.b * north) / area).floor.toNat

theorem toNat_floor_add {rest : Rat} (n : Nat) (least : 0 ≤ rest) (most : rest < 1) :
    ((n : Rat) + rest).floor.toNat = n := by
  have below : ((n : Int) : Rat) ≤ n + rest := by
    push_cast
    linarith
  have above : (n : Rat) + rest < (((n : Int) + 1 : Int) : Rat) := by
    push_cast
    linarith
  have least := Rat.le_floor_iff.mpr below
  have most := Rat.floor_lt_iff.mpr above
  omega

theorem isReader_seenAt : Raster.IsReader seenAt := by
  intro raster readable row column inRow inColumn down right down_nonneg down_lt right_nonneg right_lt
  have area := readable.area
  have back : ∀ x y : Rat,
      (raster.transform.a * (raster.transform.d * x + raster.transform.e * y) -
        raster.transform.d * (raster.transform.a * x + raster.transform.b * y)) /
          (raster.transform.a * raster.transform.e - raster.transform.b * raster.transform.d) = y ∧
      (raster.transform.e * (raster.transform.a * x + raster.transform.b * y) -
        raster.transform.b * (raster.transform.d * x + raster.transform.e * y)) /
          (raster.transform.a * raster.transform.e - raster.transform.b * raster.transform.d) = x := by
    intro x y
    constructor <;> rw [div_eq_iff area] <;> ring
  simp only [seenAt, Affine.apply, add_sub_cancel_right, (back _ _).1, (back _ _).2]
  rw [toNat_floor_add row down_nonneg down_lt, toNat_floor_add column right_nonneg right_lt]

/-- The middle pixel of a tile, which is void, the north-western corner of its raster, and its export. -/
theorem transform_agrees_dale : 2 ≤ dale.width ∧ Raster.IsReader seenAt ∧
    ∃ (map : Affine Rat) (raster : Raster Rat), dale.transform = .ok map ∧ dale.geotiff = .ok raster ∧
      seenAt raster (map.apply (3 / 2) (3 / 2)) = none ∧
      dale.heightAt (map.apply (3 / 2) (3 / 2)) = .ok none ∧ map.apply 0 0 = ⟨213 / 4, 15 / 4⟩ ∧
      ∃ artifact, Report.exported dale = .ok artifact := by
  have wide : 2 ≤ dale.width := by decide
  obtain ⟨map, raster, spacing, west, south, east, north, placed, made, -, spaced, edges, agrees, corner, -,
    -, -, exact, exports⟩ := transform_agrees dale wide isReader_seenAt
  obtain ⟨-, read, void⟩ := agrees 1 1 (by decide) (by decide)
  rw [show (((1 : Nat) : Rat) + 1 / 2) = 3 / 2 by norm_num] at read void
  have missing := void.mpr (by decide)
  obtain ⟨transform, asDoubles⟩ := exact (by decide) (by decide)
  obtain ⟨artifact, exported, -⟩ := exports transform asDoubles
  refine ⟨wide, isReader_seenAt, map, raster, placed, made, missing, missing ▸ read, ?_, artifact, exported⟩
  obtain rfl := Except.ok.inj ((spacing_rat wide).symm.trans spaced)
  have same := Except.ok.inj (dale.edges_rat.symm.trans edges)
  simp only [List.cons.injEq] at same
  obtain ⟨rfl, -, -, rfl, -⟩ := same
  rw [corner]
  decide +kernel

end Tile

end Elevation
