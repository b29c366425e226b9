import Elevation.Decimal.Binary

/-!
The fewest decimal digits that read back as the same double.

The reals that round to a double form an interval around it, closed when its significand is even.
Decimal grids are tried from the coarsest on; the first one with a point in the interval gives the
digits, and of two such points the one nearer to the double is taken.
-/
namespace Elevation.Decimal

/-- `digits * 10 ^ exponent`. -/
structure Scientific where
  digits : Nat
  exponent : Int
  deriving DecidableEq, Repr

/-- The double `value / den` and the ends of the interval of reals that round to it. -/
structure Interval where
  lower : Nat
  value : Nat
  upper : Nat
  den : Nat
  closed : Bool
  deriving Repr

/-- Quarters of the last place are whole numbers here; below a power of two the gap is half as
wide, except at the lowest exponent. -/
def Interval.around (significand : Nat) (exponent : Int) : Interval :=
  let scale := Ratio.scaled 1 (exponent - 2)
  let below := if significand = Binary.leadingBit ∧ Binary.lowestExponent < exponent then 1 else 2
  ⟨(4 * significand - below) * scale.num, 4 * significand * scale.num,
    (4 * significand + 2) * scale.num, scale.den, significand % 2 = 0⟩

def powerOfTen (power : Int) : Ratio :=
  if 0 ≤ power then ⟨Nat.pow 10 power.toNat, 1⟩ else ⟨1, Nat.pow 10 (-power).toNat⟩

def Interval.holds (interval : Interval) (unit : Ratio) (digits : Nat) : Bool :=
  let point := digits * unit.num * interval.den
  let lower := interval.lower * unit.den
  let upper := interval.upper * unit.den
  if interval.closed then lower ≤ point && point ≤ upper else lower < point && point < upper

/-- The neighbours of the value on one decimal grid, the nearer one first. -/
def Interval.neighbours (interval : Interval) (unit : Ratio) : Nat × Nat :=
  let num := interval.value * unit.den
  let den := interval.den * unit.num
  let nearest := roundDiv num den
  (nearest, if nearest * den ≤ num then nearest + 1 else nearest - 1)

/-- The point of the first grid that meets the interval, grids growing finer by a factor of ten. -/
def Interval.firstPoint (interval : Interval) : (grids : Nat) → (power : Int) → Scientific
  | 0, power => ⟨(interval.neighbours (powerOfTen power)).1, power⟩
  | grids + 1, power =>
    let unit := powerOfTen power
    let (nearest, other) := interval.neighbours unit
    if interval.holds unit nearest then ⟨nearest, power⟩
    else if interval.holds unit other then ⟨other, power⟩
    else interval.firstPoint grids (power - 1)

def Scientific.withoutZeros (steps : Nat) (decimal : Scientific) : Scientific :=
  match steps with
  | 0 => decimal
  | steps + 1 =>
    if decimal.digits ≠ 0 ∧ decimal.digits % 10 = 0 then
      withoutZeros steps ⟨decimal.digits / 10, decimal.exponent + 1⟩
    else decimal

/-- The number of decimal digits before the point of a fraction at least one, or of its
reciprocal. -/
def digitCount (n : Nat) : Nat := (Nat.toDigits 10 n).length

def leadingPower (value : Ratio) : Int :=
  if value.den ≤ value.num then digitCount (value.num / value.den)
  else 1 - (digitCount (value.den / value.num) : Int)

def shortest (significand : Nat) (exponent : Int) : Scientific :=
  let interval := Interval.around significand exponent
  (interval.firstPoint 18 (leadingPower ⟨interval.value, interval.den⟩)).withoutZeros 20

end Elevation.Decimal
