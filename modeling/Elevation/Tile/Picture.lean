import Elevation.Tile.Basic

/-!
Pictures of tiles in the colours of a terrain map.

A height is placed between the least and the greatest height of its tile and coloured along a ramp
from green over brown to white. Voids are magenta; a tile of voids alone is a black grey-scale
picture.
-/
namespace Elevation

structure Colour where
  red : Int
  green : Int
  blue : Int
  deriving DecidableEq, Repr

inductive Picture where
  | grey (width height : Nat) (pixel : Nat → Nat → Int)
  | colour (width height : Nat) (pixel : Nat → Nat → Colour)

namespace Terrain

def voidColour : Colour := ⟨255, 0, 255⟩

section

variable {α : Type} [Scalar α]

def unit (x : α) : α := Scalar.clamp (Scalar.ofInt 0) (Scalar.ofInt 1) x

def channel (share : α) : Int :=
  match Scalar.truncate (share * Scalar.ofInt 200 + Scalar.ofInt 55) with
  | .ok strength => strength
  | .error _ => 0

def position (range : Int × Int) (height : Int) : α :=
  let top := if range.2 = range.1 then range.1 + 1 else range.2
  unit ((Scalar.ofInt height - Scalar.ofInt range.1) / Scalar.ofInt (top - range.1))

def redShare (x : α) : α := unit (x * Scalar.ofInt 2)

def greenShare (x : α) : α := unit (Scalar.ofInt 1 - x * Scalar.ratio 1 2)

def blueShare (x : α) : α := unit (x * Scalar.ratio 3 2 - Scalar.ratio 1 2)

def ramp (x : α) : Colour := ⟨channel (redShare x), channel (greenShare x), channel (blueShare x)⟩

end

def colourOf (α : Type) [Scalar α] (range : Int × Int) (sample : Int) : Colour :=
  if sample = Tile.voidHeight then voidColour else ramp (position (α := α) range sample)

def picture (α : Type) [Scalar α] (tile : Tile) : Picture :=
  if tile.heights.isEmpty then .grey tile.width tile.width fun _ _ => 0
  else
    let range := tile.heightRange
    .colour tile.width tile.width fun row column =>
      colourOf α range (tile.sampleAt (row : Nat) (column : Nat))

end Terrain

end Elevation
