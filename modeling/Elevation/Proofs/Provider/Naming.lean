import Elevation.Proofs.Coverage.Exact
import Elevation.Proofs.Coverage.Spelling
import Elevation.Proofs.Grid.Corner
import Elevation.Proofs.Provider.Promise

/-!
Codes and the archives that are asked for. A cell that is listed under a code is asked for under its
name, which is that code in normal form; codes in another spelling name the same archive.
-/

namespace Elevation

namespace Provider

open Elevation.Coverage

variable {σ α : Type} [Scalar α] {provider : Provider σ} {place : Place α} {cell : Cell}
  {source : String} {line : List Char} {entries : List (String × List (List Char))}

theorem archiveUrl_of_listed (built : Index.ofEntries entries = .ok provider.index)
    (listed : (source, line) ∈ linesOf entries) (parsed : parseCode source line = .ok cell)
    (located : place.cell = .ok cell) :
    provider.archiveUrl place = place.validate.map fun _ => provider.urlOf source cell := by
  obtain ⟨clean, files⟩ := clean_of_ofEntries built
  have row : (source, line) ∈ rowsOf entries :=
    List.mem_filter.mpr ⟨listed, by simp [allBlank_of_codes parsed]⟩
  have codes : Row.Codes (source, line) cell := parsed
  have found : provider.index.find? cell.key = some source :=
    (files.find?_key_eq_some clean codes.lon_mem).mpr ⟨_, row, rfl, codes⟩
  rw [archiveUrl_eq]
  cases valid : place.validate with
  | error failure =>
    rw [held_of_invalid valid]
    rfl
  | ok _ =>
    rw [held_of_find? valid located found]
    rfl

/-- A code names the archive that is asked for: the name of its cell is the code in normal form, which
is the code itself if it is in ASCII and gives zero degrees no sign; and the archive of every place in
a cell that is listed is asked for under that name, in the partition that lists it. -/
theorem code_names_archive (parsed : parseCode source line = .ok cell) :
    ∃ code rest, Text.trim line = code ++ rest ∧ code.length = 7 ∧
      cell.corner.name = .ok (String.ofList (normal code)) ∧
      (cell.corner.name = .ok (String.ofList code) ↔ IsNormal code) ∧
      ∀ (provider : Provider σ) (entries : List (String × List (List Char))),
        Index.ofEntries entries = .ok provider.index → (source, line) ∈ linesOf entries →
        ∀ place : Place α, place.cell = .ok cell →
          provider.archiveUrl place = place.validate.map fun _ =>
            provider.baseUrl ++ "/" ++ source ++ "/" ++ String.ofList (normal code) ++ ".hgt.zip" := by
  obtain ⟨code, rest, split, spells, -⟩ := parseCode_eq_ok_iff.mp parsed
  have name : cell.name = String.ofList (normal code) := by rw [Cell.name, spells.normal_eq]
  refine ⟨code, rest, split, spells.length, by rw [cell.name_corner, name], ?_, ?_⟩
  · rw [cell.name_corner, name, Except.ok.injEq, String.ofList_inj]
    exact spells.normal_eq_self_iff
  · intro provider entries built listed place located
    rw [archiveUrl_of_listed built listed parsed located, urlOf, name]
    simp only [archiveSuffix, String.append_assoc]

def idle (index : Index) : Provider Nat :=
  ⟨index, "http://example.test/SRTM3", 2, ⟨"/", ["tiles"]⟩, fun _ _ count => (⟨none, .ok ()⟩, count),
    .empty none⟩

/-- A blank line and a code that is south of the equator by its sign only. -/
def equatorial : List (String × List (List Char)) :=
  [("Africa", [" \n".toList, "\t S00W071.hgt.zip\r".toList])]

theorem code_names_archive_equatorial : ∃ index, Index.ofEntries equatorial = .ok index ∧
    (idle index).archiveUrl (Place.mk (1 / 4 : Rat) (-141 / 2)) =
      .ok "http://example.test/SRTM3/Africa/N00W071.hgt.zip" := by
  have parsed : parseCode "Africa" "\t S00W071.hgt.zip\r".toList = .ok ⟨0, -71⟩ := by rfl
  obtain ⟨index, built⟩ : ∃ index, Index.ofEntries equatorial = .ok index := ⟨_, by rfl⟩
  obtain ⟨code, rest, -, -, name, -, named⟩ := @code_names_archive Nat Rat _ _ _ _ parsed
  have form : String.ofList (normal code) = (Cell.mk 0 (-71)).name :=
    Except.ok.inj (name.symm.trans (Cell.name_corner _))
  have south : snapped (1 / 4) = 0 := by decide +kernel
  have west : snapped (-141 / 2) = -71 := by decide +kernel
  have located : (Place.mk (1 / 4 : Rat) (-141 / 2)).cell = .ok ⟨0, -71⟩ := by
    rw [cell_rat, south, west]
  have valid : (Place.mk (1 / 4 : Rat) (-141 / 2)).validate = .ok () := (validate_rat _).mpr (by norm_num)
  have url := named (idle index) equatorial built (by simp [linesOf, equatorial]) _ located
  rw [valid, form] at url
  exact ⟨index, built, url⟩

/-- Codes in another spelling are accepted, and the archives of their cells are asked for under other
names: zero degrees south, and digits of another script. -/
theorem listed_code_renamed :
    (parseCode "Africa" "S00E010.hgt.zip".toList = .ok ⟨0, 10⟩ ∧
      (Cell.mk 0 10).corner.name ≠ .ok "S00E010") ∧
    (parseCode "Eurasia" "N５２E００４".toList = .ok ⟨52, 4⟩ ∧
      (Cell.mk 52 4).corner.name ≠ .ok "N５２E００４") ∧
    ∃ index, Index.ofEntries [("Africa", ["S00E010.hgt.zip".toList])] = .ok index ∧
      (idle index).archiveUrl (Place.mk (1 / 2 : Rat) (21 / 2)) =
        .ok "http://example.test/SRTM3/Africa/N00E010.hgt.zip" := by
  have parsed : parseCode "Africa" "S00E010.hgt.zip".toList = .ok ⟨0, 10⟩ := by rfl
  have spells : Spells "N５２E００４".toList ⟨52, 4⟩ :=
    .code false false ['５', '２'] ['０', '０', '４'] [5, 2] [0, 0, 4] rfl rfl (by decide +kernel)
      (by decide +kernel)
  have other : parseCode "Eurasia" "N５２E００４".toList = .ok ⟨52, 4⟩ :=
    parseCode_eq_ok_iff.mpr ⟨_, [], by decide, spells, rfl⟩
  refine ⟨⟨parsed, ?_⟩, ⟨other, ?_⟩, ?_⟩
  · rw [Cell.name_corner, Ne, Except.ok.injEq]
    decide
  · rw [Cell.name_corner, Ne, Except.ok.injEq]
    decide
  · obtain ⟨index, built⟩ : ∃ index, Index.ofEntries [("Africa", ["S00E010.hgt.zip".toList])] = .ok index :=
      ⟨_, by rfl⟩
    have south : snapped (1 / 2) = 0 := by decide +kernel
    have west : snapped (21 / 2) = 10 := by decide +kernel
    have located : (Place.mk (1 / 2 : Rat) (21 / 2)).cell = .ok ⟨0, 10⟩ := by
      rw [cell_rat, south, west]
    have valid : (Place.mk (1 / 2 : Rat) (21 / 2)).validate = .ok () := (validate_rat _).mpr (by norm_num)
    have url := @archiveUrl_of_listed _ _ _ (idle index) _ _ _ _ _ built (by simp [linesOf]) parsed located
    rw [valid] at url
    exact ⟨index, built, url⟩

end Provider

end Elevation
