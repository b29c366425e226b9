import Elevation.Coverage.Listing
import Elevation.Proofs.Archive.Writing
import Elevation.Proofs.Coverage.Exact
import Elevation.Proofs.Coverage.Spelling
import Elevation.Proofs.Text.Encoding
import Elevation.Proofs.Text.Lines

/-!
Listings that are written down and read again. The cells of a finite map are written one to a line
under their names, with blanks before and anything behind them, blank lines in between and breaks of
every kind; what is read is that map and nothing else, whether a text is stored as it is or in an
archive.
-/

namespace Elevation.Coverage

/-! ### Lists as they are written -/

namespace Listing

structure Pad where
  text : List Char
  blank : ∀ c ∈ text, Text.isBlank c = true
  stays : Text.IsOpen text

def Pad.none : Pad := ⟨[], List.forall_mem_nil _, List.forall_mem_nil _⟩

/-- A line holds blanks only, or the name of a cell on the globe, behind blanks and before any text
that stays on the line. -/
inductive Line
  | blank (pad : Pad)
  | code (pad : Pad) (cell : Cell) (inside : onGlobe cell = true) (rest : List Char)
    (stays : Text.IsOpen rest)

def Line.text : Line → List Char
  | blank pad => pad.text
  | code pad cell _ rest _ => pad.text ++ cell.nameChars ++ rest

def Line.cells : Line → List Cell
  | blank _ => []
  | code _ cell _ _ _ => [cell]

/-- What ends a line: a single character, or a carriage return with a line feed. -/
inductive Break
  | single (c : Char) (ends : Text.isLineBreak c = true)
  | pair

def Break.text : Break → List Char
  | single c _ => [c]
  | pair => ['\r', '\n']

/-- A list: lines with what ends them, and a last line that nothing ends. -/
structure Document where
  ended : List (Line × Break)
  last : Line

def Document.lines (document : Document) : List Line := document.ended.map Prod.fst ++ [document.last]

def Document.text (document : Document) : List Char :=
  document.ended.flatMap (fun line => line.1.text ++ line.2.text) ++ document.last.text

def Document.bytes (document : Document) : ByteArray := (String.ofList document.text).toUTF8

def areasOf (documents : List (String × Document)) : List (Cell × String) :=
  documents.flatMap fun document =>
    (document.2.lines.flatMap Line.cells).map fun cell => (cell, document.1)

variable {line : Line} {partition : String} {text bytes : ByteArray}

/-! ### Lines that are read -/

theorem Line.isOpen (line : Line) : Text.IsOpen line.text := by
  cases line with
  | blank pad => exact pad.stays
  | code pad cell inside rest stays =>
    intro c present
    rcases List.mem_append.mp present with front | behind
    · rcases List.mem_append.mp front with padding | name
      · exact pad.stays c padding
      · exact Text.isOpen_of_solid (fun c => isBlank_of_mem_nameChars) c name
    · exact stays c behind

theorem Break.ends (stop : Break) : stop.text ≠ [] ∧ ∀ c ∈ stop.text, Text.isLineBreak c = true := by
  cases stop with
  | single c ends => exact ⟨List.cons_ne_nil _ _, by simpa [text] using ends⟩
  | pair =>
    simp only [text, List.forall_mem_cons]
    exact ⟨List.cons_ne_nil _ _, rfl, rfl, by simp⟩

/-- The lines of the text are those that were written, blank ones aside. -/
theorem Document.filled_lines (document : Document) :
    Text.filled (Text.lines document.text) = Text.filled (document.lines.map Line.text) := by
  obtain ⟨ended, last⟩ := document
  unfold lines text
  induction ended with
  | nil => exact Text.filled_lines_open last.isOpen
  | cons head ended ih =>
    obtain ⟨line, stop⟩ := head
    have split := Text.filled_lines_append line.isOpen stop.ends.1 stop.ends.2
      (ended.flatMap (fun line => line.1.text ++ line.2.text) ++ last.text)
    simp only [List.flatMap_cons, List.append_assoc] at split ih ⊢
    rw [split, ih, List.map_cons, List.cons_append, List.map_cons, ← Text.filled_append]
    rfl

/-! ### Rows that are read -/

def parsed (row : Row) : Except Failure Cell × String := (parseCode row.1 row.2, row.1)

def entriesOf (documents : List (String × Document)) : List (String × List (List Char)) :=
  documents.map fun document => (document.1, Text.lines document.2.text)

theorem parsed_line (partition : String) (line : Line) :
    ((Text.filled [line.text]).map (partition, ·)).map parsed =
      (line.cells.map fun cell => (cell, partition)).map fun area => (.ok area.1, area.2) := by
  cases line with
  | blank pad =>
    rw [Line.text, Text.filled_of_blank (List.all_eq_true.mpr pad.blank)]
    rfl
  | code pad cell inside rest stays =>
    have read := parseCode_name pad.blank inside partition rest
    rw [Line.text, Text.filled_of_solid (allBlank_of_codes read), List.map_singleton,
      List.map_singleton, parsed, read]
    rfl

theorem parsed_lines (partition : String) (lines : List Line) :
    ((Text.filled (lines.map Line.text)).map (partition, ·)).map parsed =
      ((lines.flatMap Line.cells).map fun cell => (cell, partition)).map
        fun area => (.ok area.1, area.2) := by
  induction lines with
  | nil => rfl
  | cons line lines ih =>
    rw [List.map_cons, ← List.singleton_append, Text.filled_append, List.map_append, List.map_append,
      parsed_line, ih, List.flatMap_cons, List.map_append, List.map_append]

theorem rowsOf_entriesOf (documents : List (String × Document)) :
    rowsOf (entriesOf documents) =
      documents.flatMap fun document =>
        (Text.filled (document.2.lines.map Line.text)).map (document.1, ·) := by
  rw [rowsOf, Coverage.linesOf, entriesOf, List.flatMap_map, List.filter_flatMap]
  congr 1
  funext document
  rw [List.filter_map, ← document.2.filled_lines]
  rfl

/-- The rows of written lists are codes of their cells, in the order in which they are written. -/
theorem parsed_rows (documents : List (String × Document)) :
    (rowsOf (entriesOf documents)).map parsed =
      (areasOf documents).map fun area => (.ok area.1, area.2) := by
  rw [rowsOf_entriesOf, areasOf, List.map_flatMap, List.map_flatMap]
  congr 1
  funext document
  exact parsed_lines document.1 document.2.lines

/-! ### Areas of parsed rows -/

section

variable {rows : List Row} {areas : List (Cell × String)} {cell : Cell}

theorem lists_iff_of_parsed (parse : rows.map parsed = areas.map fun area => (.ok area.1, area.2)) :
    Lists rows partition cell ↔ (cell, partition) ∈ areas := by
  have member : (Except.ok cell, partition) ∈ rows.map parsed ↔
      (Except.ok cell, partition) ∈ areas.map fun area => ((.ok area.1 : Except Failure Cell), area.2) := by
    rw [parse]
  constructor
  · rintro ⟨row, listed, rfl, codes⟩
    obtain ⟨area, present, same⟩ := List.mem_map.mp (member.mp (List.mem_map.mpr
      ⟨row, listed, Prod.ext codes rfl⟩))
    obtain ⟨first, second⟩ := Prod.mk.inj same
    rwa [← Except.ok.inj first, ← second]
  · intro present
    obtain ⟨row, listed, same⟩ := List.mem_map.mp (member.mpr (List.mem_map.mpr ⟨_, present, rfl⟩))
    obtain ⟨codes, name⟩ := Prod.mk.inj same
    exact ⟨row, listed, name, codes⟩

theorem clean_of_parsed (parse : rows.map parsed = areas.map fun area => (.ok area.1, area.2))
    (distinct : (areas.map Prod.fst).Nodup) : Clean rows := by
  constructor
  · intro row listed
    have present : parsed row ∈ areas.map fun area => (.ok area.1, area.2) :=
      parse ▸ List.mem_map_of_mem listed
    obtain ⟨area, -, same⟩ := List.mem_map.mp present
    exact ⟨area.1, (Prod.mk.inj same).1.symm⟩
  · have apart : (rows.map parsed).Pairwise fun first second =>
        ∀ cell, first.1 = .ok cell → second.1 ≠ .ok cell := by
      rw [parse, List.pairwise_map]
      refine (List.pairwise_map.mp distinct).imp ?_
      rintro area other different cell same same'
      exact different ((Except.ok.inj same).trans (Except.ok.inj same').symm)
    rw [List.pairwise_map] at apart
    exact apart

theorem filterMap_area?_of_parsed (parse : rows.map parsed = areas.map fun area => (.ok area.1, area.2)) :
    rows.filterMap Row.area? = areas.map fun area => (area.1.key, area.2) := by
  have area (row : Row) : row.area? = (parsed row).1.toOption.map fun cell => (cell.key, (parsed row).2) := by
    unfold Row.area? parsed
    cases parseCode row.1 row.2 <;> rfl
  have whole := congrArg (List.filterMap fun row : Except Failure Cell × String =>
    row.1.toOption.map fun cell => (cell.key, row.2)) parse
  rw [List.filterMap_map, List.filterMap_map] at whole
  rw [List.filterMap_congr fun row _ => area row]
  exact whole.trans (congrFun List.filterMap_eq_map areas)

end

/-! ### Areas of a finite map -/

section

variable {areas : List (Cell × String)} {cells : Finset Cell} {name : Cell → String}
  (whole : (areas : Multiset (Cell × String)) = cells.val.map fun cell => (cell, name cell))

include whole

theorem mem_areas_iff {cell : Cell} : (cell, partition) ∈ areas ↔ cell ∈ cells ∧ name cell = partition := by
  rw [← Multiset.mem_coe, whole, Multiset.mem_map]
  simp only [Finset.mem_val, Prod.mk.injEq]
  constructor
  · rintro ⟨cell, present, rfl, rfl⟩
    exact ⟨present, rfl⟩
  · rintro ⟨present, rfl⟩
    exact ⟨cell, present, rfl, rfl⟩

theorem nodup_cells : (areas.map Prod.fst).Nodup := by
  rw [← Multiset.coe_nodup, ← Multiset.map_coe, whole, Multiset.map_map]
  exact cells.nodup.map Function.injective_id

theorem map_key_areas : ((areas.map fun area => (area.1.key, area.2) : List (Int × String)) :
    Multiset (Int × String)) = cells.val.map fun cell => (cell.key, name cell) := by
  rw [← Multiset.map_coe, whole, Multiset.map_map]
  rfl

end

/-! ### Lists as they are stored -/

/-- Bytes that store a text: the text itself, if it does not look like an archive, or an archive of
this one entry. -/
inductive Stores (text : ByteArray) : ByteArray → Prop
  | plain (apart : Archive.isArchive .memory text = .ok false) : Stores text text
  | archived {bytes : ByteArray} {directory : Archive.Directory} {entry : Archive.Entry}
    {stream : Archive.Stream} (read : Archive.readDirectory .memory bytes = .ok directory)
    (only : directory.entries = [entry])
    (opened : Archive.openEntry .memory bytes directory 0 entry (Text.quoted entry.name) = .ok stream)
    (whole : stream.readAll = .ok text) : Stores text bytes

theorem isArchive_of_readDirectory {medium : Archive.Medium} {directory : Archive.Directory}
    (read : Archive.readDirectory medium bytes = .ok directory) :
    Archive.isArchive medium bytes = .ok true := by
  unfold Archive.readDirectory at read
  unfold Archive.isArchive
  split at read
  next => cases read
  next => cases read
  next => cases read
  next record found => rw [found]; rfl

theorem find?_of_only {directory : Archive.Directory} {entry : Archive.Entry}
    (only : directory.entries = [entry]) : directory.find? entry.name = some (0, entry) := by
  rw [Archive.Directory.find?, only]
  simp [List.zipIdx]

theorem Stores.contents (stores : Stores text bytes) (partition : String) :
    contents partition bytes = .ok text := by
  cases stores with
  | plain apart =>
    unfold Listing.contents
    rw [apart]
  | archived read only opened whole =>
    unfold Listing.contents firstEntry
    rw [isArchive_of_readDirectory read, read]
    simp only [only, find?_of_only only, Option.getD_some, opened, whole, Except.map]

theorem Stores.linesOf {document : Document} (stores : Stores document.bytes bytes) (partition : String) :
    linesOf partition bytes = .ok (Text.lines document.text) := by
  unfold Listing.linesOf
  simp only [stores.contents partition, Document.bytes, Text.ofUtf8_toUTF8]

theorem stores_storedArchive (some : 0 < text.size) (short : text.size ≤ Archive.wholeEntry) :
    Stores text (Archive.storedArchive text) := by
  have fits : 31 + text.size < 256 ^ 4 := by
    unfold Archive.wholeEntry at short
    omega
  obtain ⟨directory, entry, read, only, lies, opened⟩ := Archive.opens_storedArchive some fits .memory
  exact .archived read only (opened _) (lies.readAll short "h")

/-- Stored lists are the written lists, each under its partition. -/
def Stored (documents : List (String × Document)) (lists : List (String × ByteArray)) : Prop :=
  List.Forall₂ (fun document list => list.1 = document.1 ∧ Stores document.2.bytes list.2) documents lists

theorem Stored.allLines {documents : List (String × Document)} {lists : List (String × ByteArray)}
    (stored : Stored documents lists) : allLines lists = .ok (entriesOf documents) := by
  induction stored with
  | nil => rfl
  | @cons document list documents lists head _ ih =>
    obtain ⟨name, stores⟩ := head
    obtain ⟨partition, bytes⟩ := list
    obtain rfl : partition = document.1 := name
    rw [Listing.allLines, stores.linesOf]
    simp only [ih]
    rfl

theorem Stored.index {documents : List (String × Document)} {lists : List (String × ByteArray)}
    (stored : Stored documents lists) : index lists = Index.ofEntries (entriesOf documents) := by
  unfold Listing.index
  simp only [stored.allLines]

end Listing

/-! ### The map that is read -/

/-- An index of a finite map from cells to partitions, and of nothing else. -/
structure Index.Holds (α : Type) [Scalar α] (index : Index) (cells : Finset Cell)
    (partition : Cell → String) : Prop where
  size : index.size = cells.card
  areas : (index.areas : Multiset (Int × String)) = cells.val.map fun cell => (cell.key, partition cell)
  listed : ∀ (place : Place α) (cell : Cell), place.cell = .ok cell → cell ∈ cells →
    index.lookup place = place.validate.map fun _ => partition cell
  unlisted : ∀ (place : Place α) (cell : Cell), place.validate = .ok () → place.cell = .ok cell →
    cell ∉ cells →
      index.lookup place = .error (.areaNotFound cell.key (Scalar.text place.lat) (Scalar.text place.lon))

theorem Index.Files.holds {index : Index} {rows : List Row} (α : Type) [Scalar α] [Scalar.Charted α]
    {cells : Finset Cell} {partition : Cell → String} (files : index.Files rows) (clean : Clean rows)
    (lists : ∀ cell name, Lists rows name cell ↔ cell ∈ cells ∧ partition cell = name)
    (areas : (index.areas : Multiset (Int × String)) =
      cells.val.map fun cell => (cell.key, partition cell)) : index.Holds α cells partition where
  size := by rw [Index.size, ← Multiset.coe_card, areas, Multiset.card_map, Finset.card_val]
  areas := areas
  listed place cell located present := by
    have listed := (lists cell (partition cell)).mpr ⟨present, rfl⟩
    obtain ⟨row, -, -, codes⟩ := id listed
    have found := (files.find?_key_eq_some clean codes.lon_mem).mpr listed
    cases valid : place.validate with
    | error failure => simp only [Index.lookup, valid, Except.map]
    | ok _ => exact (index.lookup_eq_ok_iff valid located).mpr found
  unlisted place cell valid located absent := by
    obtain ⟨cell', located', keyed⟩ := Scalar.Charted.exists_cell valid
    cases located.symm.trans located'
    rw [index.lookup_eq_error_iff valid located, Option.eq_none_iff_forall_ne_some]
    intro name found
    have listed := (files.find?_key_eq_some clean keyed).mp found
    exact absent ((lists cell name).mp listed).1

open Listing in
/-- Every finite map of cells on the globe is read back from the lists that it is written in: the cells
in any order, each on a line with blanks before its name and anything behind it, between blank lines
and breaks of all kinds, and every list stored as plain text or as the one entry of an archive. -/
theorem index_written (α : Type) [Scalar α] [Scalar.Charted α] (cells : Finset Cell)
    (partition : Cell → String) (documents : List (String × Document))
    (written : (areasOf documents : Multiset (Cell × String)) =
      cells.val.map fun cell => (cell, partition cell)) :
    ∃ index : Index, index.Holds α cells partition ∧
      ∀ lists, Stored documents lists → Listing.index lists = .ok index := by
  have parse := parsed_rows documents
  have clean := clean_of_parsed parse (nodup_cells written)
  obtain ⟨index, built, files⟩ := ofEntries_of_clean clean
  have areas : (index.areas : Multiset (Int × String)) =
      cells.val.map fun cell => (cell.key, partition cell) := by
    rw [show index.areas = _ from files, filterMap_area?_of_parsed parse]
    exact map_key_areas written
  refine ⟨index, files.holds α clean ?_ areas, fun lists stored => stored.index.trans built⟩
  intro cell name
  exact (lists_iff_of_parsed parse).trans (mem_areas_iff written)

/-- One code behind an ideographic space, another before a line separator, and blank lines with other
breaks around them. -/
def cape : Listing.Document where
  ended := [(.blank ⟨[' ', '\t'], List.all_eq_true.mp rfl, by decide⟩, .pair),
    (.code ⟨['\u3000'], List.all_eq_true.mp rfl, by decide⟩ ⟨-34, 18⟩ rfl ['.', 'h', 'g', 't', ' ']
      (by decide), .single '\r' rfl),
    (.blank .none, .single '\n' rfl),
    (.code .none ⟨0, -1⟩ rfl [] (List.forall_mem_nil _), .single '\u2028' rfl)]
  last := .blank .none

/-- The last corner of the globe, with no break behind it. -/
def pole : Listing.Document where
  ended := []
  last := .code .none ⟨90, 180⟩ rfl ['\u00e9'] (by decide)

theorem index_written_cape_pole : ∃ index : Index,
    Listing.index [("Africa", cape.bytes), ("Islands", Archive.storedArchive pole.bytes)] = .ok index ∧
      index.size = 3 ∧ index.lookup (⟨-67 / 2, 37 / 2⟩ : Place Rat) = .ok "Africa" := by
  obtain ⟨index, holds, loads⟩ := index_written Rat {⟨-34, 18⟩, ⟨0, -1⟩, ⟨90, 180⟩}
    (fun cell => if cell.lat = 90 then "Islands" else "Africa") [("Africa", cape), ("Islands", pole)]
    (by decide +kernel)
  have plain : Listing.Stores cape.bytes cape.bytes := .plain (by decide +kernel)
  have packed : Listing.Stores pole.bytes (Archive.storedArchive pole.bytes) :=
    Listing.stores_storedArchive (by decide +kernel) (by decide +kernel)
  have south : snapped (-67 / 2) = -34 := by decide +kernel
  have east : snapped (37 / 2) = 18 := by decide +kernel
  have located : (⟨-67 / 2, 37 / 2⟩ : Place Rat).cell = .ok ⟨-34, 18⟩ := by rw [cell_rat, south, east]
  have valid : (⟨-67 / 2, 37 / 2⟩ : Place Rat).validate = .ok () := (validate_rat _).mpr (by norm_num)
  refine ⟨index, loads _ (.cons ⟨rfl, plain⟩ (.cons ⟨rfl, packed⟩ .nil)), holds.size, ?_⟩
  rw [holds.listed _ _ located (by decide), valid]
  rfl

end Elevation.Coverage
