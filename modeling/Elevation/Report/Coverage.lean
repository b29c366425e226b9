import Elevation.Coverage.Index

/-!
Which cells a bounding box needs, and which of them the index has.

A box is given by its west, south, east and north edge. Its cells are gone through from south to
north and from west to east; the first one off the globe ends the survey.
-/
namespace Elevation.Report

structure Survey (α : Type) where
  fullyCovered : Bool
  percentage : α
  required : Nat
  available : List String
  missing : List String
  deriving Repr

structure Finding where
  cell : Cell
  partition : Option String
  deriving DecidableEq, Repr

def Finding.name (finding : Finding) : String :=
  match finding.partition with
  | none => finding.cell.name
  | some partition => partition ++ "/" ++ finding.cell.name

def Finding.isAvailable (finding : Finding) : Bool := finding.partition.isSome

/-- A cell is looked up by its corner, which has to be on the globe. -/
def find (index : Elevation.Coverage.Index) (cell : Cell) : Except Failure Finding :=
  let corner : Place Int := ⟨cell.lat, cell.lon⟩
  corner.validate.map fun () => ⟨cell, index.find? cell.key⟩

section

variable {α : Type} [Scalar α]

/-- The cells of a row from column `lon` on that start west of `east`. -/
def surveyRow (index : Elevation.Coverage.Index) (east : α) (lat lon : Int) :
    Except Failure (List Finding) :=
  if Scalar.lt (Scalar.ofInt lon) east then
    match find index ⟨lat, lon⟩ with
    | .error failure => .error failure
    | .ok finding =>
      if 180 < lon then .error (.longitudeOutside (Scalar.text lon))
      else (surveyRow index east lat (lon + 1)).map (finding :: ·)
  else .ok []
termination_by (181 - lon).toNat

/-- The rows from row `lat` on that start south of `north`. In a box without columns, rows add
nothing; if it has no northern end either, the survey has no end. -/
def surveyRows (index : Elevation.Coverage.Index) (west east north : α) (lat : Int) :
    Except Failure (List Finding) :=
  if Scalar.lt (Scalar.ofInt lat) north then
    match Scalar.floor west with
    | .error reason => .error (.noInteger reason)
    | .ok lon =>
      if Scalar.lt (Scalar.ofInt lon) east then
        match surveyRow index east lat lon with
        | .error failure => .error failure
        | .ok row =>
          if 90 < lat then .error (.latitudeOutside (Scalar.text lat))
          else (surveyRows index west east north (lat + 1)).map (row ++ ·)
      else
        match Scalar.floor north with
        | .error _ => .error .endlessBox
        | .ok _ => .ok []
  else .ok []
termination_by (91 - lat).toNat

def shareOf (available required : Nat) : α :=
  if required = 0 then Scalar.ofInt 0
  else Scalar.tenths (Scalar.ratio available required * Scalar.ofInt 100)

def Survey.ofFindings (findings : List Finding) : Survey α :=
  let (available, missing) := findings.partition Finding.isAvailable
  { fullyCovered := 0 < findings.length && missing.isEmpty
    percentage := shareOf available.length findings.length
    required := findings.length
    available := available.map Finding.name
    missing := missing.map Finding.name }

/-- The edges of a box, the western one not east of the eastern one, the southern one not north of
the northern one. -/
def edges (box : List α) : Except Failure (α × α × α × α) :=
  match box with
  | [west, south, east, north] =>
    if Scalar.le east west then
      .error (.boxLongitudes (Scalar.text west) (Scalar.text east))
    else if Scalar.le north south then
      .error (.boxLatitudes (Scalar.text south) (Scalar.text north))
    else .ok (west, south, east, north)
  | _ => .error .boxMembers

def surveyEdges (index : Elevation.Coverage.Index) (west south east north : α) :
    Except Failure (Survey α) :=
  match Scalar.floor south with
  | .error reason => .error (.noInteger reason)
  | .ok lat => (surveyRows index west east north lat).map .ofFindings

def checkCoverage (index : Elevation.Coverage.Index) (box : List α) : Except Failure (Survey α) :=
  match edges box with
  | .error failure => .error failure
  | .ok (west, south, east, north) => surveyEdges index west south east north

end

end Elevation.Report
