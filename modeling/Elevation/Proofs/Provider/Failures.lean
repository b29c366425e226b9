import Elevation.Provider.Basic
import Mathlib.Tactic.SplitIfs

/-!
Which failures come from where. Places that no area holds, transfers that fail and archives that are
damaged are told apart by the class of the failure; nothing else on the way to a tile or to a height
fails under the name of one of these classes.
-/

namespace Elevation.Provider

variable {α : Type} [Scalar α] {cell : Cell} {place : Place α} {failure : Failure}

def Tileless (failure : Failure) : Prop :=
  failure.kind = "AreaNotFound" ∨ failure.kind = "RetrievalError" ∨ failure.kind = "DecodeError"

theorem not_tileless_of_node {tile : Tile} {n : Int} (distance : α → α)
    (failed : ((Tile.degrees n).bind fun edge => tile.nodeAt (distance edge)) = .error failure) :
    ¬ Tileless failure := by
  unfold Tile.degrees at failed
  cases edge : (Scalar.ofInt? n : Option α) with
  | none =>
    simp only [edge, Except.bind] at failed
    cases failed
    simp [Tileless, Failure.kind]
  | some edge' =>
    simp only [edge, Except.bind, Tile.nodeAt] at failed
    cases nearest : Scalar.nearest (distance edge' * Scalar.ofInt ((tile.width : Int) - 1)) with
    | ok node => simp [nearest, Except.mapError] at failed
    | error reason =>
      simp only [nearest, Except.mapError] at failed
      cases failed
      cases reason <;> simp [Tileless, Failure.kind]

theorem not_tileless_of_heightAt {tile : Tile} (failed : tile.heightAt place = .error failure) :
    ¬ Tileless failure := by
  unfold Tile.heightAt Tile.indexAt at failed
  cases row : tile.rowOf place.lat with
  | error reason =>
    simp only [row, Except.map] at failed
    cases failed
    exact not_tileless_of_node (fun north => north - place.lat) row
  | ok row' =>
    cases column : tile.columnOf place.lon with
    | error reason =>
      simp only [row, column, Except.map] at failed
      cases failed
      exact not_tileless_of_node (fun west => place.lon - west) column
    | ok column' =>
      simp only [row, column] at failed
      split_ifs at failed with inside
      · cases failed
      · simp only [Except.map] at failed
        cases failed
        simp [Tileless, Failure.kind]

theorem kind_of_validate (invalid : place.validate = .error failure) : failure.kind = "ValueError" := by
  unfold Place.validate at invalid
  split_ifs at invalid <;> cases invalid <;> rfl

end Elevation.Provider
