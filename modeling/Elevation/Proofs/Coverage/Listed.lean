import Elevation.Coverage.Index
import Elevation.Proofs.Grid.Name
import Elevation.Proofs.Lookup

/-!
How an index is built from lists of codes. The lists count as one sequence of rows, the lines that
are not blank. As long as every row is a code of a cell of its own, each adds one area; the first row
that is not ends the construction and is what the failure tells of.
-/

namespace Elevation.Coverage

/-- A line, with the partition under which it is listed. -/
abbrev Row := String × List Char

def linesOf (entries : List (String × List (List Char))) : List Row :=
  entries.flatMap fun entry => entry.2.map (entry.1, ·)

def rowsOf (entries : List (String × List (List Char))) : List Row :=
  (linesOf entries).filter fun row => !Text.allBlank row.2

namespace Row

def Codes (row : Row) (cell : Cell) : Prop := parseCode row.1 row.2 = .ok cell

/-- Two rows that are no codes of one cell. -/
def Apart (row other : Row) : Prop := ∀ cell, row.Codes cell → ¬ other.Codes cell

def area? (row : Row) : Option (Int × String) :=
  match parseCode row.1 row.2 with
  | .error _ => none
  | .ok cell => some (cell.key, row.1)

end Row

/-- Rows that are codes, each of a cell of its own. -/
structure Clean (rows : List Row) : Prop where
  coded : ∀ row ∈ rows, ∃ cell, row.Codes cell
  apart : rows.Pairwise Row.Apart

/-- Why a row cannot be added to the rows before it: it is no code, or its cell is listed already. -/
inductive Offends (before : List Row) (row : Row) : Failure → Prop
  | malformed (uncoded : ∀ cell, ¬ row.Codes cell) :
    Offends before row (.malformedCode (String.ofList (Text.trim row.2)) row.1)
  | duplicate (earlier : Row) (cell : Cell) (listed : earlier ∈ before) (first : earlier.Codes cell)
    (again : row.Codes cell) : Offends before row (.duplicateArea cell.key earlier.1 row.1)

variable {row other : Row} {rows before front back : List Row} {cell : Cell} {index next : Index}
  {failure : Failure} {key : Int} {partition : String}

/-! ### Codes -/

theorem parseCode_cases (partition : String) (line : List Char) :
    (∃ cell, parseCode partition line = .ok cell ∧ onGlobe cell = true) ∨
      parseCode partition line = .error (.malformedCode (String.ofList (Text.trim line)) partition) := by
  unfold parseCode
  cases corner? (Text.trim line) with
  | none => exact Or.inr rfl
  | some cell =>
    by_cases inside : onGlobe cell = true
    · exact Or.inl ⟨cell, if_pos inside, inside⟩
    · exact Or.inr (if_neg inside)

theorem Row.Codes.lon_mem (codes : row.Codes cell) : -181 ≤ cell.lon ∧ cell.lon ≤ 180 := by
  rcases parseCode_cases row.1 row.2 with ⟨other, parsed, inside⟩ | malformed
  · cases codes.symm.trans parsed
    simp only [onGlobe, Bool.and_eq_true, decide_eq_true_eq] at inside
    omega
  · cases codes.symm.trans malformed

theorem Row.Codes.eq_of_key (codes : row.Codes cell) {cell' : Cell} (codes' : other.Codes cell')
    (same : cell.key = cell'.key) : cell = cell' :=
  Cell.key_injective codes.lon_mem codes'.lon_mem same

theorem Row.Apart.symm (apart : row.Apart other) : other.Apart row :=
  fun cell codes codes' => apart cell codes' codes

theorem Row.area?_eq_some {area : Int × String} :
    row.area? = some area ↔ ∃ cell, row.Codes cell ∧ area = (cell.key, row.1) := by
  unfold area? Codes
  cases parseCode row.1 row.2 with
  | error failure => simp
  | ok cell => simp [eq_comm]

/-! ### Clean rows -/

theorem clean_nil : Clean [] := ⟨by simp, .nil⟩

theorem clean_concat : Clean (before ++ [row]) ↔
    Clean before ∧ (∃ cell, row.Codes cell) ∧ ∀ earlier ∈ before, earlier.Apart row := by
  constructor
  · rintro ⟨coded, apart⟩
    obtain ⟨apart', -, last⟩ := List.pairwise_append.mp apart
    exact ⟨⟨fun row present => coded row (List.mem_append_left _ present), apart'⟩,
      coded row (by simp), fun earlier present => last earlier present row (by simp)⟩
  · rintro ⟨⟨coded, apart⟩, codes, last⟩
    refine ⟨?_, List.pairwise_append.mpr ⟨apart, List.pairwise_singleton _ _, by simpa using last⟩⟩
    intro other present
    rcases List.mem_append.mp present with old | new
    · exact coded other old
    · exact List.mem_singleton.mp new ▸ codes

theorem exists_offends (clean : Clean before) (unclean : ¬ Clean (before ++ [row])) :
    ∃ failure, Offends before row failure := by
  by_cases coded : ∃ cell, row.Codes cell
  · by_cases apart : ∀ earlier ∈ before, earlier.Apart row
    · exact absurd (clean_concat.mpr ⟨clean, coded, apart⟩) unclean
    · simp only [Row.Apart, not_forall, not_not] at apart
      obtain ⟨earlier, listed, cell, first, again⟩ := apart
      exact ⟨_, .duplicate earlier cell listed first again⟩
  · exact ⟨_, .malformed fun cell codes => coded ⟨cell, codes⟩⟩

theorem clean_or_offends (rows : List Row) : Clean rows ∨ ∃ front row back failure,
    rows = front ++ row :: back ∧ Clean front ∧ Offends front row failure := by
  induction rows using List.reverseRecOn with
  | nil => exact Or.inl clean_nil
  | append_singleton before row ih =>
    rcases ih with clean | ⟨front, first, back, failure, rfl, clean, offends⟩
    · by_cases whole : Clean (before ++ [row])
      · exact Or.inl whole
      · obtain ⟨failure, offends⟩ := exists_offends clean whole
        exact Or.inr ⟨before, row, [], failure, rfl, clean, offends⟩
    · exact Or.inr ⟨front, first, back ++ [row], failure, by simp, clean, offends⟩

/-! ### Rows one after the other -/

namespace Index

def insertRow (index : Index) (row : Row) : Except Failure Index :=
  match parseCode row.1 row.2 with
  | .error failure => .error failure
  | .ok cell => index.insert row.1 cell

def insertRows (index : Index) (rows : List Row) : Except Failure Index := rows.foldlM insertRow index

theorem insertLine_eq (index : Index) (row : Row) :
    index.insertLine row.1 row.2 = if !Text.allBlank row.2 then index.insertRow row else .ok index := by
  unfold insertLine insertRow
  cases Text.allBlank row.2 <;> rfl

theorem insertLines_eq (partition : String) (index : Index) (lines : List (List Char)) :
    index.insertLines partition lines =
      (lines.map (partition, ·)).foldlM (fun index row => index.insertLine row.1 row.2) index := by
  induction lines generalizing index with
  | nil => rfl
  | cons line rest ih =>
    rw [insertLines, List.map_cons, List.foldlM_cons]
    cases index.insertLine partition line with
    | error failure => rfl
    | ok index => exact ih index

theorem insertEntries_eq (index : Index) (entries : List (String × List (List Char))) :
    index.insertEntries entries =
      (linesOf entries).foldlM (fun index row => index.insertLine row.1 row.2) index := by
  induction entries generalizing index with
  | nil => rfl
  | cons entry rest ih =>
    obtain ⟨partition, lines⟩ := entry
    rw [insertEntries, insertLines_eq, linesOf, List.flatMap_cons, List.foldlM_append]
    cases (lines.map (partition, ·)).foldlM (fun index row => index.insertLine row.1 row.2) index with
    | error failure => rfl
    | ok index => exact ih index

/-- Blank lines and the borders between lists make no difference. -/
theorem ofEntries_eq (entries : List (String × List (List Char))) :
    ofEntries entries = empty.insertRows (rowsOf entries) := by
  rw [ofEntries, insertEntries_eq, insertRows, rowsOf, List.foldlM_filter]
  congr 1
  funext index row
  exact index.insertLine_eq row

theorem insertRows_append (index : Index) (front back : List Row) :
    index.insertRows (front ++ back) = (index.insertRows front).bind (insertRows · back) :=
  List.foldlM_append

/-! ### Areas of rows -/

/-- An index of the areas of some rows, in their order. -/
def Files (index : Index) (rows : List Row) : Prop := index.areas = rows.filterMap Row.area?

theorem find?_eq_lookup (index : Index) (key : Int) : index.find? key = index.recent.lookup key :=
  index.agrees key

theorem Files.mem_recent (files : Files index rows) {area : Int × String} :
    area ∈ index.recent ↔ ∃ row ∈ rows, ∃ cell, row.Codes cell ∧ area = (cell.key, row.1) := by
  have listed : area ∈ index.recent ↔ area ∈ index.areas := List.mem_reverse.symm
  rw [listed, show index.areas = _ from files, List.mem_filterMap]
  simp only [Row.area?_eq_some]

theorem Files.find?_eq_none (files : Files index rows) :
    index.find? key = none ↔ ∀ row ∈ rows, ∀ cell, row.Codes cell → cell.key ≠ key := by
  rw [find?_eq_lookup, lookup_eq_none_iff_keys]
  constructor
  · rintro absent row listed cell codes rfl
    exact absent (List.mem_map_of_mem (files.mem_recent.mpr ⟨row, listed, cell, codes, rfl⟩))
  · intro apart known
    obtain ⟨area, filed, rfl⟩ := List.mem_map.mp known
    obtain ⟨row, listed, cell, codes, rfl⟩ := files.mem_recent.mp filed
    exact apart row listed cell codes rfl

theorem Files.nodup (files : Files index rows) (clean : Clean rows) :
    (index.recent.map Prod.fst).Nodup := by
  have distinct : (index.areas.map Prod.fst).Nodup := by
    rw [show index.areas = _ from files, List.Nodup, List.pairwise_map, List.pairwise_filterMap]
    refine clean.apart.imp ?_
    intro row other apart area first area' second same
    obtain ⟨cell, codes, rfl⟩ := Row.area?_eq_some.mp first
    obtain ⟨cell', codes', rfl⟩ := Row.area?_eq_some.mp second
    exact apart cell codes (codes.eq_of_key codes' same ▸ codes')
  rwa [Index.areas, List.map_reverse, List.nodup_reverse] at distinct

theorem Files.find?_eq_some (files : Files index rows) (clean : Clean rows) :
    index.find? key = some partition ↔
      ∃ row ∈ rows, row.1 = partition ∧ ∃ cell, row.Codes cell ∧ cell.key = key := by
  rw [find?_eq_lookup, lookup_eq_some_iff_mem (files.nodup clean), files.mem_recent]
  constructor
  · rintro ⟨row, listed, cell, codes, same⟩
    obtain ⟨rfl, rfl⟩ := Prod.mk.inj same
    exact ⟨row, listed, rfl, cell, codes, rfl⟩
  · rintro ⟨row, listed, rfl, cell, codes, rfl⟩
    exact ⟨row, listed, cell, codes, rfl⟩

theorem Files.push (files : Files index before) (codes : row.Codes cell) :
    Files (index.push cell.key row.1) (before ++ [row]) := by
  have area : row.area? = some (cell.key, row.1) := Row.area?_eq_some.mpr ⟨cell, codes, rfl⟩
  have added : (index.push cell.key row.1).areas = index.areas ++ [(cell.key, row.1)] :=
    List.reverse_cons
  unfold Files at files ⊢
  rw [added, files, List.filterMap_append, List.filterMap_cons_some area, List.filterMap_nil]

/-! ### One row -/

theorem Files.insertRow_ok (files : Files index before) (coded : ∃ cell, row.Codes cell)
    (apart : ∀ earlier ∈ before, earlier.Apart row) :
    ∃ next, index.insertRow row = .ok next ∧ Files next (before ++ [row]) := by
  obtain ⟨cell, codes⟩ := coded
  have unlisted : index.find? cell.key = none := by
    rw [files.find?_eq_none]
    intro earlier listed cell' codes' same
    exact apart earlier listed cell' codes' (codes'.eq_of_key codes same ▸ codes)
  refine ⟨index.push cell.key row.1, ?_, files.push codes⟩
  have parsed : parseCode row.1 row.2 = .ok cell := codes
  simp only [insertRow, parsed, Index.insert, unlisted]

theorem Files.insertRow_error (files : Files index before) (clean : Clean before)
    (offends : Offends before row failure) : index.insertRow row = .error failure := by
  cases offends with
  | malformed uncoded =>
    rcases parseCode_cases row.1 row.2 with ⟨cell, codes, -⟩ | malformed
    · exact absurd codes (uncoded cell)
    · simp only [insertRow, malformed]
  | duplicate earlier cell listed first again =>
    have found : index.find? cell.key = some earlier.1 :=
      (files.find?_eq_some clean).mpr ⟨earlier, listed, rfl, cell, first, rfl⟩
    have parsed : parseCode row.1 row.2 = .ok cell := again
    simp only [insertRow, parsed, Index.insert, found]

/-! ### All rows -/

theorem insertRows_of_clean (clean : Clean rows) :
    ∃ index, empty.insertRows rows = .ok index ∧ Files index rows := by
  induction rows using List.reverseRecOn with
  | nil => exact ⟨empty, rfl, rfl⟩
  | append_singleton before row ih =>
    obtain ⟨clean', coded, apart⟩ := clean_concat.mp clean
    obtain ⟨index, built, files⟩ := ih clean'
    obtain ⟨next, added, files'⟩ := files.insertRow_ok coded apart
    refine ⟨next, ?_, files'⟩
    rw [insertRows_append, built]
    simp only [Except.bind, insertRows, List.foldlM_cons, added, List.foldlM_nil]
    rfl

theorem insertRows_of_offends (clean : Clean front) (offends : Offends front row failure) :
    empty.insertRows (front ++ row :: back) = .error failure := by
  obtain ⟨index, built, files⟩ := insertRows_of_clean clean
  rw [insertRows_append, built]
  simp only [Except.bind, insertRows, List.foldlM_cons, files.insertRow_error clean offends]
  rfl

end Index

end Elevation.Coverage
