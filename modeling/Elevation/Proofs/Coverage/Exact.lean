import Elevation.Proofs.Coverage.Listed
import Elevation.Proofs.Grid.Globe

/-!
What an index tells of the lists that it was built from. There is an index exactly of lists whose
rows are codes of different cells; it finds the partition of a place where a row of that partition is
the code of the cell of the place, and its counts are those of the rows. The order of the rows makes
no difference to any of this.
-/

namespace Elevation.Coverage

variable {rows rows' : List Row} {index index' : Index} {cell : Cell} {partition : String}

def Lists (rows : List Row) (partition : String) (cell : Cell) : Prop :=
  ∃ row ∈ rows, row.1 = partition ∧ row.Codes cell

/-- What an index tells of rows. -/
structure Tells (α : Type) [Scalar α] (index : Index) (rows : List Row) : Prop where
  size : index.size = rows.length
  /-- Every place on the globe has a cell, and is found exactly where a row has that cell. -/
  places : ∀ place : Place α, place.validate = .ok () → ∃ cell,
    place.cell = .ok cell ∧ place.key = .ok cell.key ∧
    (∀ partition, index.lookup place = .ok partition ↔ Lists rows partition cell) ∧
    (index.lookup place =
        .error (.areaNotFound cell.key (Scalar.text place.lat) (Scalar.text place.lon)) ↔
      ∀ partition, ¬ Lists rows partition cell) ∧
    index.covers place = .ok (index.contains cell.key) ∧
    (index.contains cell.key = true ↔ ∃ partition, Lists rows partition cell)
  sorted : (index.partitionCounts.map Prod.fst).Pairwise (· < ·)
  names : ∀ name, name ∈ index.partitionCounts.map Prod.fst ↔
    name ∈ partitions ∨ ∃ row ∈ rows, row.1 = name
  counts : ∀ entry ∈ index.partitionCounts, entry.2 = rows.countP fun row => row.1 = entry.1
  total : (index.partitionCounts.map Prod.snd).sum = index.size

structure Agree (α : Type) [Scalar α] (index index' : Index) : Prop where
  lookup : ∀ place : Place α, index'.lookup place = index.lookup place
  covers : ∀ place : Place α, index'.covers place = index.covers place
  contains : ∀ key, index'.contains key = index.contains key
  size : index'.size = index.size
  counts : index'.partitionCounts = index.partitionCounts

namespace Index

/-! ### Places -/

theorem Files.find?_key_eq_some (files : Files index rows) (clean : Clean rows)
    (keyed : -181 ≤ cell.lon ∧ cell.lon ≤ 180) :
    index.find? cell.key = some partition ↔ Lists rows partition cell := by
  rw [files.find?_eq_some clean]
  constructor
  · rintro ⟨row, listed, held, cell', codes, same⟩
    exact ⟨row, listed, held, Cell.key_injective codes.lon_mem keyed same ▸ codes⟩
  · rintro ⟨row, listed, held, codes⟩
    exact ⟨row, listed, held, cell, codes, rfl⟩

theorem Files.contains_iff (files : Files index rows) (clean : Clean rows)
    (keyed : -181 ≤ cell.lon ∧ cell.lon ≤ 180) :
    index.contains cell.key = true ↔ ∃ partition, Lists rows partition cell := by
  simp only [contains, Option.isSome_iff_exists, files.find?_key_eq_some clean keyed]

section

variable {α : Type} [Scalar α] {place : Place α}

theorem lookup_of_cell (index : Index) (valid : place.validate = .ok ())
    (located : place.cell = .ok cell) :
    index.lookup place =
      match index.find? cell.key with
      | some partition => .ok partition
      | none => .error (.areaNotFound cell.key (Scalar.text place.lat) (Scalar.text place.lon)) := by
  cases found : index.find? cell.key <;>
    simp only [lookup, valid, Place.key, located, Except.map, found]

theorem covers_of_cell (index : Index) (valid : place.validate = .ok ())
    (located : place.cell = .ok cell) :
    index.covers place = .ok (index.contains cell.key) := by
  simp only [covers, valid, Place.key, located, Except.map]

theorem lookup_eq_ok_iff (index : Index) (valid : place.validate = .ok ()) (located : place.cell = .ok cell) :
    index.lookup place = .ok partition ↔ index.find? cell.key = some partition := by
  rw [index.lookup_of_cell valid located]
  cases index.find? cell.key <;> simp

theorem lookup_eq_error_iff (index : Index) (valid : place.validate = .ok ())
    (located : place.cell = .ok cell) :
    index.lookup place =
        .error (.areaNotFound cell.key (Scalar.text place.lat) (Scalar.text place.lon)) ↔
      index.find? cell.key = none := by
  rw [index.lookup_of_cell valid located]
  cases index.find? cell.key <;> simp

theorem lookup_congr (same : ∀ key, index'.find? key = index.find? key) (place : Place α) :
    index'.lookup place = index.lookup place ∧ index'.covers place = index.covers place := by
  unfold lookup covers contains
  simp only [same, and_self]

end

/-! ### Partitions -/

theorem Files.partitions_eq (files : Files index rows) (clean : Clean rows) :
    index.areas.map Prod.snd = rows.map Prod.fst := by
  rw [show index.areas = _ from files, List.map_filterMap, ← List.filterMap_eq_map]
  apply List.filterMap_congr
  intro row listed
  obtain ⟨cell, codes⟩ := clean.coded row listed
  rw [Row.area?_eq_some.mpr ⟨cell, codes, rfl⟩]
  rfl

theorem Files.size_eq (files : Files index rows) (clean : Clean rows) : index.size = rows.length := by
  have same := congrArg List.length (files.partitions_eq clean)
  rwa [List.length_map, List.length_map] at same

theorem Files.count_eq (files : Files index rows) (clean : Clean rows) (name : String) :
    index.count name = rows.countP fun row => row.1 = name := by
  have held := congrArg (List.countP fun other => other = name) (files.partitions_eq clean)
  rw [List.countP_map, List.countP_map] at held
  rw [count, ← List.countP_eq_length_filter]
  exact held

theorem nodup_eraseDups (names : List String) : names.eraseDups.Nodup := by
  generalize size : names.length = n
  induction n using Nat.strong_induction_on generalizing names with
  | _ n ih =>
  cases names with
  | nil => exact List.nodup_nil
  | cons name rest =>
    rw [List.eraseDups_cons, List.nodup_cons]
    have shorter : (rest.filter fun other => !other == name).length < n := by
      have fewer := List.length_filter_le (fun other => !other == name) rest
      rw [List.length_cons] at size
      omega
    exact ⟨by simp [List.mem_eraseDups], ih _ shorter _ rfl⟩

theorem mem_partitionNames {name : String} :
    name ∈ index.partitionNames ↔ name ∈ partitions ∨ name ∈ index.areas.map Prod.snd := by
  rw [partitionNames, List.mem_mergeSort, List.mem_eraseDups, List.mem_append]

theorem nodup_partitionNames (index : Index) : index.partitionNames.Nodup :=
  (List.mergeSort_perm _ _).nodup_iff.mpr (nodup_eraseDups _)

theorem sorted_partitionNames (index : Index) : index.partitionNames.Pairwise (· < ·) := by
  have ordered : index.partitionNames.Pairwise (· ≤ ·) := List.pairwise_mergeSort' (· ≤ ·) _
  refine (ordered.and (nodup_partitionNames index)).imp ?_
  rintro name other ⟨order, different⟩
  exact lt_of_le_of_ne order different

theorem map_fst_partitionCounts (index : Index) :
    index.partitionCounts.map Prod.fst = index.partitionNames := by
  rw [partitionCounts, List.map_map]
  exact List.map_id _

theorem sum_partitionCounts (index : Index) :
    (index.partitionCounts.map Prod.snd).sum = index.size := by
  have counts : index.partitionCounts.map Prod.snd =
      index.partitionNames.map fun name =>
        Multiset.count name (index.areas.map Prod.snd : Multiset String) := by
    rw [partitionCounts, List.map_map]
    apply List.map_congr_left
    intro name _
    rw [Multiset.coe_count, List.count, List.countP_map, List.countP_eq_length_filter]
    rfl
  rw [counts, ← List.sum_toFinset _ (nodup_partitionNames index), Multiset.sum_count_eq_card]
  · simp [size]
  · intro name present
    exact List.mem_toFinset.mpr (mem_partitionNames.mpr (Or.inr present))

/-! ### All that an index tells -/

variable {α : Type} [Scalar α]

theorem Files.tells [Scalar.Charted α] (files : Files index rows) (clean : Clean rows) :
    Tells α index rows := by
  refine ⟨files.size_eq clean, ?_, ?_, ?_, ?_, sum_partitionCounts index⟩
  · intro place valid
    obtain ⟨cell, located, keyed⟩ := Scalar.Charted.exists_cell valid
    have found (partition : String) :
        index.find? cell.key = some partition ↔ Lists rows partition cell :=
      files.find?_key_eq_some clean keyed
    refine ⟨cell, located, by rw [Place.key, located]; rfl, ?_, ?_, index.covers_of_cell valid located,
      files.contains_iff clean keyed⟩
    · intro partition
      rw [index.lookup_eq_ok_iff valid located, found]
    · rw [index.lookup_eq_error_iff valid located, Option.eq_none_iff_forall_ne_some]
      simp only [Ne, found]
  · rw [map_fst_partitionCounts]
    exact sorted_partitionNames index
  · intro name
    rw [map_fst_partitionCounts, mem_partitionNames, files.partitions_eq clean, List.mem_map]
  · intro entry listed
    obtain ⟨name, -, rfl⟩ := List.mem_map.mp listed
    exact files.count_eq clean name

/-! ### Rows in another order -/

theorem clean_of_perm (same : rows.Perm rows') (clean : Clean rows) : Clean rows' :=
  ⟨fun row listed => clean.coded row (same.mem_iff.mpr listed),
    clean.apart.perm same fun apart => apart.symm⟩

theorem Files.find?_congr (files : Files index rows) (files' : Files index' rows') (clean : Clean rows)
    (same : rows.Perm rows') (key : Int) : index'.find? key = index.find? key := by
  apply Option.ext
  intro partition
  rw [files'.find?_eq_some (clean_of_perm same clean), files.find?_eq_some clean]
  simp only [same.mem_iff]

theorem Files.agree (files : Files index rows) (files' : Files index' rows') (clean : Clean rows)
    (same : rows.Perm rows') : Agree α index index' := by
  have clean' := clean_of_perm same clean
  have found := files.find?_congr files' clean same
  refine ⟨fun place => (lookup_congr found place).1, fun place => (lookup_congr found place).2,
    ?_, ?_, ?_⟩
  · intro key
    rw [contains, contains, found]
  · rw [files.size_eq clean, files'.size_eq clean', same.length_eq]
  · have names : index'.partitionNames = index.partitionNames := by
      have members : index'.partitionNames.Perm index.partitionNames := by
        rw [List.perm_ext_iff_of_nodup (nodup_partitionNames _) (nodup_partitionNames _)]
        intro name
        simp only [mem_partitionNames, files.partitions_eq clean, files'.partitions_eq clean',
          (same.map Prod.fst).mem_iff]
      refine members.eq_of_pairwise ?_ (sorted_partitionNames _) (sorted_partitionNames _)
      exact fun name other _ _ less more => absurd (less.trans more) (lt_irrefl name)
    rw [partitionCounts, partitionCounts, names]
    apply List.map_congr_left
    intro name _
    rw [files.count_eq clean, files'.count_eq clean', same.countP_eq]

end Index

/-! ### Building an index -/

section

variable {entries others : List (String × List (List Char))} {front back : List Row} {row : Row}
  {failure : Failure}

theorem Offends.kind (offends : Offends front row failure) : failure.kind = "ConfigurationError" := by
  cases offends <;> rfl

theorem ofEntries_of_clean (clean : Clean (rowsOf entries)) :
    ∃ index, Index.ofEntries entries = .ok index ∧ index.Files (rowsOf entries) := by
  rw [Index.ofEntries_eq]
  exact Index.insertRows_of_clean clean

theorem ofEntries_of_offends (split : rowsOf entries = front ++ row :: back) (clean : Clean front)
    (offends : Offends front row failure) : Index.ofEntries entries = .error failure := by
  rw [Index.ofEntries_eq, split]
  exact Index.insertRows_of_offends clean offends

theorem clean_of_ofEntries (built : Index.ofEntries entries = .ok index) :
    Clean (rowsOf entries) ∧ index.Files (rowsOf entries) := by
  rcases clean_or_offends (rowsOf entries) with clean | ⟨front, row, back, failure, split, clean, offends⟩
  · obtain ⟨index, built', files⟩ := ofEntries_of_clean clean
    cases built'.symm.trans built
    exact ⟨clean, files⟩
  · cases (ofEntries_of_offends split clean offends).symm.trans built

theorem offends_of_ofEntries (refused : Index.ofEntries entries = .error failure) :
    ∃ front row back,
      rowsOf entries = front ++ row :: back ∧ Clean front ∧ Offends front row failure := by
  rcases clean_or_offends (rowsOf entries) with clean | ⟨front, row, back, other, split, clean, offends⟩
  · obtain ⟨index, built, -⟩ := ofEntries_of_clean clean
    cases built.symm.trans refused
  · cases (ofEntries_of_offends split clean offends).symm.trans refused
    exact ⟨front, row, back, split, clean, offends⟩

theorem rowsOf_perm (same : (linesOf entries).Perm (linesOf others)) :
    (rowsOf entries).Perm (rowsOf others) := same.filter _

theorem ofEntries_error_of_perm (same : (linesOf entries).Perm (linesOf others))
    (refused : Index.ofEntries entries = .error failure) :
    ∃ failure, Index.ofEntries others = .error failure := by
  cases built : Index.ofEntries others with
  | error failure => exact ⟨failure, rfl⟩
  | ok index =>
    have clean := Index.clean_of_perm (rowsOf_perm same).symm (clean_of_ofEntries built).1
    obtain ⟨index, built', -⟩ := ofEntries_of_clean clean
    cases built'.symm.trans refused

end

/-- Of some lists there is an index exactly if all rows are codes of different cells, and it tells
what they say; otherwise the first row that is not such a code is reported. Rows in another order give
the same answers, or no index either. -/
theorem ofEntries_exact (α : Type) [Scalar α] [Scalar.Charted α]
    (entries : List (String × List (List Char))) :
    ((∃ index, Index.ofEntries entries = .ok index) ↔ Clean (rowsOf entries)) ∧
    (∀ failure, Index.ofEntries entries = .error failure ↔ ∃ front row back,
      rowsOf entries = front ++ row :: back ∧ Clean front ∧ Offends front row failure) ∧
    (∀ failure, Index.ofEntries entries = .error failure → failure.kind = "ConfigurationError") ∧
    (∀ index, Index.ofEntries entries = .ok index → Tells α index (rowsOf entries)) ∧
    ∀ others, (linesOf entries).Perm (linesOf others) →
      (∀ index, Index.ofEntries entries = .ok index →
        ∃ index', Index.ofEntries others = .ok index' ∧ Agree α index index') ∧
      ∀ failure, Index.ofEntries entries = .error failure →
        ∃ failure, Index.ofEntries others = .error failure := by
  refine ⟨⟨?_, ?_⟩, ?_, ?_, ?_, ?_⟩
  · rintro ⟨index, built⟩
    exact (clean_of_ofEntries built).1
  · intro clean
    obtain ⟨index, built, -⟩ := ofEntries_of_clean clean
    exact ⟨index, built⟩
  · intro failure
    constructor
    · exact offends_of_ofEntries
    · rintro ⟨front, row, back, split, clean, offends⟩
      exact ofEntries_of_offends split clean offends
  · intro failure refused
    obtain ⟨front, row, back, -, -, offends⟩ := offends_of_ofEntries refused
    exact offends.kind
  · intro index built
    obtain ⟨clean, files⟩ := clean_of_ofEntries built
    exact files.tells clean
  · intro others same
    refine ⟨?_, fun failure => ofEntries_error_of_perm same⟩
    intro index built
    obtain ⟨clean, files⟩ := clean_of_ofEntries built
    obtain ⟨index', built', files'⟩ := ofEntries_of_clean (Index.clean_of_perm (rowsOf_perm same) clean)
    exact ⟨index', built', files.agree files' clean (rowsOf_perm same)⟩

/-- Two lists with a code of signed zeros, a blank line and an archive name among them. -/
def harbours : List (String × List (List Char)) :=
  [("Africa", ["S00W000.hgt.zip\n".toList, " \n".toList, "N01E000".toList]),
    ("Islands", ["S05E000".toList])]

theorem ofEntries_exact_harbours : ∃ index, Index.ofEntries harbours = .ok index ∧ index.size = 3 ∧
    index.lookup (⟨-1 / 200000, 0⟩ : Place Rat) = .ok "Africa" := by
  obtain ⟨-, -, -, tells, -⟩ := ofEntries_exact Rat harbours
  have rows : rowsOf harbours = [("Africa", "S00W000.hgt.zip\n".toList),
    ("Africa", "N01E000".toList), ("Islands", "S05E000".toList)] := by decide +kernel
  obtain ⟨index, built⟩ : ∃ index, Index.ofEntries harbours = .ok index := ⟨_, by rfl⟩
  have valid : (⟨-1 / 200000, 0⟩ : Place Rat).validate = .ok () := (validate_rat _).mpr (by norm_num)
  obtain ⟨cell, located, -, found, -⟩ := (tells index built).places _ valid
  refine ⟨index, built, ?_, (found "Africa").mpr ?_⟩
  · rw [(tells index built).size, rows]
    rfl
  · have origin : cell = ⟨0, 0⟩ := by
      cases (cell_rat _).symm.trans located
      decide +kernel
    rw [rows, origin]
    exact ⟨("Africa", "S00W000.hgt.zip\n".toList), by simp, rfl, by rfl⟩

end Elevation.Coverage
