import Elevation.Grid
import Elevation.Text.Blank

/-!
The codes under which cells are listed.

A code starts a line, blanks aside: `N` or `S` with two digits of latitude, `E` or `W` with three
of longitude. What follows it on the line is not looked at.
-/
namespace Elevation.Coverage

open Elevation.Text

def takeDigits? : Nat → List Char → Option (List Nat × List Char)
  | 0, text => some ([], text)
  | _ + 1, [] => none
  | count + 1, c :: rest =>
    match digitValue? c, takeDigits? count rest with
    | some digit, some (digits, rest) => some (digit :: digits, rest)
    | _, _ => none

def takeSign? (positive negative : Char) : List Char → Option (Bool × List Char)
  | [] => none
  | c :: rest =>
    if c = positive then some (false, rest)
    else if c = negative then some (true, rest)
    else none

/-- The corner that the code at the front of a text writes, on or off the globe. -/
def corner? (text : List Char) : Option Cell :=
  match takeSign? 'N' 'S' text with
  | none => none
  | some (south, text) =>
    match takeDigits? 2 text with
    | none => none
    | some (lat, text) =>
      match takeSign? 'E' 'W' text with
      | none => none
      | some (west, text) =>
        match takeDigits? 3 text with
        | none => none
        | some (lon, _) =>
          some ⟨Decimal.signed south (ofDigits lat), Decimal.signed west (ofDigits lon)⟩

def onGlobe (cell : Cell) : Bool := cell.lat.natAbs ≤ 90 && cell.lon.natAbs ≤ 180

def parseCode (source : String) (line : List Char) : Except Failure Cell :=
  match corner? (trim line) with
  | some cell =>
    if onGlobe cell then .ok cell else .error (.malformedCode (String.ofList (trim line)) source)
  | none => .error (.malformedCode (String.ofList (trim line)) source)

end Elevation.Coverage
