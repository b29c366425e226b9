import Elevation.Proofs.Tile.Raster

/-!
The summaries of a tile against the look-up of places, over exact rationals. The voids that are counted
are the nodes at which the look-up finds no height, and the range of heights spans what it finds at the
others; so whatever it finds anywhere lies in that range. A tile does not depend on whether its samples
were handed over in one list or in rows.
-/

namespace Elevation

namespace Nested

variable {samples : List Int} {rows : List (List Int)} {width : Nat}

def ofList (samples : List Int) : Nested := .list (samples.map .sample)

def ofRows (rows : List (List Int)) : Nested := .list (rows.map ofList)

structure IsSquare (width : Nat) (rows : List (List Int)) : Prop where
  length : rows.length = width
  row : ∀ row ∈ rows, row.length = width

theorem flattenAll_eq (items : List Nested) : flattenAll items = items.flatMap flatten := by
  induction items with
  | nil => rw [flattenAll, List.flatMap_nil]
  | cons item rest ih => rw [flattenAll, ih, List.flatMap_cons]

theorem shapes_eq_map (items : List Nested) : shapes items = items.map shape := by
  induction items with
  | nil => rw [shapes, List.map_nil]
  | cons item rest ih => rw [shapes, ih, List.map_cons]

theorem flatten_ofList (samples : List Int) : (ofList samples).flatten = samples := by
  rw [ofList, flatten, flattenAll_eq, List.flatMap_map]
  simp [flatten]

theorem flatten_ofRows (rows : List (List Int)) : (ofRows rows).flatten = rows.flatten := by
  rw [ofRows, flatten, flattenAll_eq, List.flatMap_map]
  simp [flatten_ofList, List.flatMap_id']

theorem commonShape_replicate (shape : List Nat) (more : Nat) :
    commonShape (List.replicate (more + 1) (shape, true)) = (shape, true) := by
  induction more with
  | zero => rfl
  | succ more ih =>
    rw [List.replicate_succ, commonShape, ih]
    · have agreed : ∀ pair ∈ shape.zip shape, pair.1 = pair.2 := by
        intro pair present
        obtain ⟨place, inside, rfl⟩ := List.mem_iff_getElem.mp present
        simp
      dsimp only
      rw [List.takeWhile_eq_self_iff.mpr]
      · simp [List.map_fst_zip]
      · exact fun pair present => decide_eq_true (agreed pair present)
    · simp [List.replicate_succ]

theorem shape_ofList (samples : List Int) : (ofList samples).shape = ([samples.length], true) := by
  have inner : shapes (samples.map .sample) = List.replicate samples.length ([], true) := by
    rw [shapes_eq_map, List.map_map, List.eq_replicate_iff]
    simp [shape]
  rw [ofList, shape, inner, List.length_map]
  cases samples.length with
  | zero => rfl
  | succ more => rw [commonShape_replicate]

theorem shape_ofRows (square : IsSquare width rows) (some : 0 < width) :
    (ofRows rows).shape = ([width, width], true) := by
  have inner : shapes (rows.map ofList) = List.replicate width ([width], true) := by
    rw [shapes_eq_map, List.map_map, List.eq_replicate_iff]
    refine ⟨by rw [List.length_map, square.length], fun shape present => ?_⟩
    obtain ⟨row, listed, rfl⟩ := List.mem_map.mp present
    rw [Function.comp_apply, shape_ofList, square.row row listed]
  obtain ⟨more, rfl⟩ : ∃ more, width = more + 1 := ⟨width - 1, by omega⟩
  rw [ofRows, shape, inner, commonShape_replicate, List.length_map, square.length]

end Nested

namespace Tile

variable {tile : Tile} {row column : Nat}

/-! ### The nodes of a tile -/

def nodes (width : Nat) : List (Nat × Nat) := List.range width ×ˢ List.range width

theorem mem_nodes {width : Nat} {node : Nat × Nat} :
    node ∈ nodes width ↔ node.1 < width ∧ node.2 < width := by
  rw [nodes, List.mem_product, List.mem_range, List.mem_range]

theorem nodup_nodes (width : Nat) : (nodes width).Nodup :=
  List.nodup_range.product List.nodup_range

theorem flatMap_range_getD (samples : List Int) (default : Int) {width others : Nat}
    (enough : others * width ≤ samples.length) :
    ((List.range others).flatMap fun row =>
      (List.range width).map fun column => samples.getD (row * width + column) default) =
        samples.take (others * width) := by
  induction others with
  | zero => simp
  | succ others ih =>
    rw [Nat.succ_mul] at enough ⊢
    have last : (List.range width).map (fun column => samples.getD (others * width + column) default) =
        (samples.drop (others * width)).take width := by
      apply List.ext_getElem
      · rw [List.length_map, List.length_range, List.length_take, List.length_drop]
        omega
      · intro column inside _
        rw [List.length_map, List.length_range] at inside
        have present : others * width + column < samples.length := by omega
        simp [List.getD_eq_getElem?_getD, List.getElem?_eq_getElem present]
    rw [List.range_succ, List.flatMap_append, ih (by omega), List.flatMap_singleton, last, List.take_add]

theorem sampleAt_eq_getD (tile : Tile) (row column : Nat) :
    tile.sampleAt row column = tile.samples.toList.getD (row * tile.width + column) voidHeight := by
  have place : ((row : Int) * tile.width + column).toNat = row * tile.width + column := by
    rw [← Nat.cast_mul, ← Nat.cast_add, Int.toNat_natCast]
  rw [sampleAt, place, Array.getD_eq_getD_getElem?, List.getD_eq_getElem?_getD, Array.getElem?_toList]

theorem flatten_rows (tile : Tile) : tile.rows.flatten = tile.samples.toList := by
  have enough : tile.samples.toList.length = tile.width * tile.width := tile.size_eq
  simp only [rows, sampleAt_eq_getD, ← List.flatMap_def]
  rw [flatMap_range_getD _ _ enough.ge, ← enough, List.take_length]

theorem isSquare_rows (tile : Tile) : Nested.IsSquare tile.width tile.rows where
  length := by rw [rows, List.length_map, List.length_range]
  row := by
    intro row present
    obtain ⟨_, _, rfl⟩ := List.mem_map.mp present
    rw [List.length_map, List.length_range]

theorem samples_eq_map_nodes (tile : Tile) :
    tile.samples.toList = (nodes tile.width).map fun node => tile.sampleAt node.1 node.2 := by
  have cut : nodes tile.width =
      (List.range tile.width).flatMap fun row => (List.range tile.width).map fun column => (row, column) :=
    rfl
  rw [← flatten_rows, rows, ← List.flatMap_def, cut, List.map_flatMap]
  simp only [List.map_map]
  rfl

theorem mem_samples_iff {sample : Int} : sample ∈ tile.samples.toList ↔
    ∃ row < tile.width, ∃ column < tile.width, tile.sampleAt row column = sample := by
  rw [samples_eq_map_nodes, List.mem_map]
  constructor
  · rintro ⟨node, inside, rfl⟩
    obtain ⟨inRow, inColumn⟩ := mem_nodes.mp inside
    exact ⟨node.1, inRow, node.2, inColumn, rfl⟩
  · rintro ⟨row, inRow, column, inColumn, rfl⟩
    exact ⟨(row, column), mem_nodes.mpr ⟨inRow, inColumn⟩, rfl⟩

theorem mem_heights_iff {height : Int} : height ∈ tile.heights ↔ height ≠ voidHeight ∧
    ∃ row < tile.width, ∃ column < tile.width, tile.sampleAt row column = height := by
  rw [heights, List.mem_filter, mem_samples_iff, and_comm]
  simp

/-! ### Nodes looked up -/

/-- The nodes of a tile at which the look-up finds no height. -/
def voidNodes (tile : Tile) : Set (Nat × Nat) :=
  {node | (node.1 < tile.width ∧ node.2 < tile.width) ∧
    tile.heightAt (tile.cell.node tile.width node.1 node.2) = .ok none}

/-- The heights that the look-up finds at the nodes of a tile. -/
def nodeHeights (tile : Tile) : Set Int :=
  {height | ∃ row < tile.width, ∃ column < tile.width,
    tile.heightAt (tile.cell.node tile.width row column) = .ok (some height)}

theorem heightAt_eq_ok {place : Place Rat} {height? : Option Int} :
    tile.heightAt place = .ok height? ↔ ∃ n m, tile.indexAt place = .ok (n, m) ∧
      (if tile.sampleAt n m = voidHeight then none else some (tile.sampleAt n m)) = height? := by
  rw [heightAt, map_eq_ok]
  constructor
  · rintro ⟨⟨n, m⟩, found, same⟩
    exact ⟨n, m, found, same⟩
  · rintro ⟨n, m, found, same⟩
    exact ⟨(n, m), found, same⟩

theorem heightAt_node_eq_ok (wide : 2 ≤ tile.width) (inRow : row < tile.width)
    (inColumn : column < tile.width) {height? : Option Int} :
    tile.heightAt (tile.cell.node tile.width row column) = .ok height? ↔
      (if tile.sampleAt row column = voidHeight then none else some (tile.sampleAt row column)) = height? := by
  rw [heightAt_eq_ok, indexAt_node wide inRow inColumn]
  constructor
  · rintro ⟨n, m, found, same⟩
    cases found
    exact same
  · exact fun same => ⟨_, _, rfl, same⟩

theorem voidCount_eq_ncard (wide : 2 ≤ tile.width) : tile.voidCount = tile.voidNodes.ncard := by
  let void (node : Nat × Nat) : Bool := tile.sampleAt node.1 node.2 = voidHeight
  have seen : tile.voidNodes = ((nodes tile.width).filter void).toFinset := by
    ext node
    rw [List.coe_toFinset, Set.mem_ofPred_eq, List.mem_filter, mem_nodes]
    refine and_congr_right fun inside => ?_
    rw [heightAt_node_eq_ok wide inside.1 inside.2]
    simp [void]
  have counted : tile.voidCount = tile.samples.toList.countP (· = voidHeight) :=
    Array.countP_toList.symm
  rw [seen, Set.ncard_coe_finset, List.toFinset_card_of_nodup ((nodup_nodes _).filter _), counted,
    samples_eq_map_nodes, List.countP_map, List.countP_eq_length_filter]
  rfl

theorem mem_nodeHeights (wide : 2 ≤ tile.width) {height : Int} :
    height ∈ tile.nodeHeights ↔ height ∈ tile.heights := by
  rw [mem_heights_iff]
  constructor
  · rintro ⟨row, inRow, column, inColumn, found⟩
    rw [heightAt_node_eq_ok wide inRow inColumn] at found
    split_ifs at found with void
    obtain rfl := Option.some.inj found
    exact ⟨void, row, inRow, column, inColumn, rfl⟩
  · rintro ⟨proper, row, inRow, column, inColumn, rfl⟩
    refine ⟨row, inRow, column, inColumn, ?_⟩
    rw [heightAt_node_eq_ok wide inRow inColumn, if_neg proper]

theorem mem_heights_of_heightAt {place : Place Rat} {height : Int}
    (found : tile.heightAt place = .ok (some height)) : height ∈ tile.heights := by
  obtain ⟨n, m, index, read⟩ := heightAt_eq_ok.mp found
  obtain ⟨⟨south, east⟩, rfl, rfl⟩ := indexAt_eq_ok_iff.mp index
  obtain ⟨row, inRow⟩ := Int.eq_ofNat_of_zero_le south.selects.nonneg
  obtain ⟨column, inColumn⟩ := Int.eq_ofNat_of_zero_le east.selects.nonneg
  have below := south.selects.le_last
  have below' := east.selects.le_last
  rw [inRow, inColumn] at read
  rw [inRow, last] at below
  rw [inColumn, last] at below'
  split_ifs at read with void
  exact mem_heights_iff.mpr
    ⟨Option.some.inj read ▸ void, row, by omega, column, by omega, Option.some.inj read⟩

/-! ### The range of heights -/

theorem rangeOf_eq (heights : List Int) :
    rangeOf heights = (heights.min?.getD 0, heights.max?.getD 0) := by
  cases heights with
  | nil => rfl
  | cons first rest => rw [List.min?_cons', List.max?_cons']; rfl

theorem isLeast_rangeOf {heights : List Int} (some : heights ≠ []) :
    IsLeast {height | height ∈ heights} (rangeOf heights).1 ∧
      IsGreatest {height | height ∈ heights} (rangeOf heights).2 := by
  obtain ⟨low, least⟩ := Option.isSome_iff_exists.mp (List.isSome_min?_of_ne_nil some)
  obtain ⟨high, most⟩ := Option.isSome_iff_exists.mp (List.isSome_max?_of_ne_nil some)
  rw [rangeOf_eq, least, most]
  exact ⟨List.min?_eq_some_iff.mp least, List.max?_eq_some_iff.mp most⟩

/-! ### Samples handed over -/

theorem ofSamples_eq_ok {cell : Cell} {width : Nat} {samples : Array Int}
    (fits : samples.size = width * width) :
    ofSamples cell width samples = .ok ⟨cell, width, samples, fits⟩ := by
  rw [ofSamples, if_neg (by omega), Int.toNat_natCast, ofSamples?, dif_pos fits]

theorem ofNested_eq_ok {cell : Cell} {width : Nat} {heights : Nested} {samples : List Int} {shape : List Nat}
    (shaped : heights.shape = (shape, true)) (flat : heights.flatten = samples)
    (fits : shape = [width * width] ∨ shape = [width, width])
    (short : ∀ sample ∈ samples, inSampleRange sample = true)
    (enough : samples.toArray.size = width * width) :
    ofNested cell width heights = .ok ⟨cell, width, samples.toArray, enough⟩ := by
  have shallow : ¬ mostAxes < shape.length := by
    rcases fits with rfl | rfl <;> simp [mostAxes]
  have fitting : fitsShape width shape = true := by
    rcases fits with rfl | rfl <;> simp [fitsShape]
  have none : samples.find? (fun sample => !inSampleRange sample) = none := by
    simpa using short
  rw [ofNested, shaped, flat]
  simp [shallow, none, fitting, ofSamples_eq_ok enough]

/-- A flat list of samples and the same samples in rows give one tile, whose summaries agree with its
look-up: the voids counted are the nodes at which no height is found, and the range spans the heights
found at the others, with both ends among them, or is `(0, 0)` if there are none. So whatever height is
found at a place lies in the range. -/
theorem summaries_agree (cell : Cell) {width : Nat} (wide : 2 ≤ width) {samples : List Int}
    (enough : samples.length = width * width) (short : ∀ sample ∈ samples, inSampleRange sample = true) :
    ∃ tile : Tile, (tile.cell = cell ∧ tile.width = width ∧ tile.samples.toList = samples) ∧
      ofNested cell width (.ofList samples) = .ok tile ∧
      (Nested.IsSquare width tile.rows ∧ tile.rows.flatten = samples) ∧
      (∀ rows, Nested.IsSquare width rows → rows.flatten = samples →
        ofNested cell width (.ofRows rows) = .ok tile) ∧
      tile.voidCount = tile.voidNodes.ncard ∧
      (tile.nodeHeights = ∅ → tile.heightRange = (0, 0)) ∧
      (tile.nodeHeights.Nonempty →
        IsLeast tile.nodeHeights tile.heightRange.1 ∧ IsGreatest tile.nodeHeights tile.heightRange.2) ∧
      ∀ (place : Place Rat) (height : Int), tile.heightAt place = .ok (some height) →
        tile.heightRange.1 ≤ height ∧ height ≤ tile.heightRange.2 := by
  let tile : Tile := ⟨cell, width, samples.toArray, enough⟩
  have heights : tile.nodeHeights = {height | height ∈ tile.heights} :=
    Set.ext fun height => mem_nodeHeights wide
  refine ⟨tile, ⟨rfl, rfl, rfl⟩, ?_, ⟨isSquare_rows tile, flatten_rows tile⟩, fun rows square flat => ?_,
    voidCount_eq_ncard wide, fun none => ?_, fun some => ?_, fun place height found => ?_⟩
  · exact ofNested_eq_ok (Nested.shape_ofList samples) (Nested.flatten_ofList samples)
      (.inl (by rw [enough])) short enough
  · exact ofNested_eq_ok (Nested.shape_ofRows square (by omega)) ((Nested.flatten_ofRows rows).trans flat)
      (.inr rfl) short enough
  · have empty : tile.heights = [] := by
      rw [heights] at none
      exact List.eq_nil_iff_forall_not_mem.mpr fun height => Set.eq_empty_iff_forall_notMem.mp none height
    rw [heightRange, empty]
    rfl
  · rw [heights] at some ⊢
    obtain ⟨height, present⟩ := some
    exact isLeast_rangeOf (List.ne_nil_of_mem present)
  · have present := mem_heights_of_heightAt found
    obtain ⟨least, most⟩ := isLeast_rangeOf (List.ne_nil_of_mem present)
    exact ⟨least.2 present, most.2 present⟩

/-- Nine samples in three rows, one of them void. -/
theorem summaries_agree_dale :
    ofNested ⟨52, 4⟩ (3 : Nat) (.ofRows [[7, 8, 9], [10, -32768, 12], [13, 14, 15]]) = .ok dale ∧
      dale.voidNodes.ncard = 1 ∧ IsLeast dale.nodeHeights 7 ∧ IsGreatest dale.nodeHeights 15 := by
  obtain ⟨tile, -, flat, -, nested, count, -, range, -⟩ :=
    summaries_agree ⟨52, 4⟩ (show 2 ≤ 3 by decide)
      (show ([7, 8, 9, 10, -32768, 12, 13, 14, 15] : List Int).length = 3 * 3 by decide) (by decide)
  obtain rfl : tile = dale := Except.ok.inj (flat.symm.trans (by rfl))
  have seen : (7 : Int) ∈ dale.nodeHeights := (mem_nodeHeights (by decide)).mpr (by decide)
  obtain ⟨least, most⟩ := range ⟨7, seen⟩
  exact ⟨nested _ ⟨by decide, by decide⟩ (by decide), count.symm, least, most⟩

end Tile

end Elevation
