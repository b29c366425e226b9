import Elevation.Decimal.Written

/-!
The numbers that coordinates are made of.

Everything the library computes on coordinates uses the operations below, so the same definitions
run on doubles and can be read over exact rationals or integers. Comparisons answer as the number
itself does: a double that is no number is neither below nor above anything.
-/
namespace Elevation

/-- Why a number has no integer beside it. -/
inductive NoInteger where
  | nan
  | infinite
  deriving DecidableEq, Repr

def NoInteger.message : NoInteger → String
  | .nan => "cannot convert float NaN to integer"
  | .infinite => "cannot convert float infinity to integer"

class Scalar (α : Type) extends Add α, Sub α, Mul α, Div α where
  ofInt : Int → α
  /-- Whether an integer lies within the range of these numbers. -/
  holds : Int → Bool
  lt : α → α → Bool
  le : α → α → Bool
  /-- The integer next to a number towards zero. -/
  truncate : α → Except NoInteger Int
  /-- The greatest integer not above a number. -/
  floor : α → Except NoInteger Int
  /-- The integer nearest to a number, a tie going to the even one. -/
  nearest : α → Except NoInteger Int
  /-- A number rounded to one decimal place, a tie going to the even digit. -/
  tenths : α → α
  text : α → String

namespace Scalar

variable {α : Type} [Scalar α]

def ofNat (n : Nat) : α := ofInt (n : Int)

def ofInt? (n : Int) : Option α := if holds α n then some (ofInt n) else none

def ratio (num den : Int) : α := (ofInt num : α) / ofInt den

def clamp (low high x : α) : α := if lt x low then low else if lt high x then high else x

end Scalar

/-! ### Doubles -/

namespace Decimal

/-- An integer that a finite double determines, `toInteger` being applied to its sign and its
magnitude as a fraction. -/
def integerOf (toInteger : Bool → Ratio → Int) (x : Float) : Except NoInteger Int :=
  match Binary.ofFloat x with
  | .nan => .error .nan
  | .infinite _ => .error .infinite
  | .finite negative significand exponent =>
    .ok (toInteger negative (Ratio.scaled significand exponent))

def Ratio.floorSigned (negative : Bool) (value : Ratio) : Int :=
  if negative then -(((value.num + value.den - 1) / value.den : Nat) : Int)
  else ((value.num / value.den : Nat) : Int)

end Decimal

instance : Scalar Float where
  ofInt := Float.ofInt
  holds n := (Float.ofInt n).isFinite
  lt x y := x < y
  le x y := x ≤ y
  truncate := Decimal.integerOf fun negative value =>
    Decimal.signed negative (value.num / value.den)
  floor := Decimal.integerOf Decimal.Ratio.floorSigned
  nearest := Decimal.integerOf fun negative value =>
    Decimal.signed negative (Decimal.roundDiv value.num value.den)
  tenths := Decimal.roundPlaces 1
  text := Decimal.floatText

/-! ### Single-precision numbers, in which pictures are coloured -/

instance : Scalar Float32 where
  ofInt n := (Float.ofInt n).toFloat32
  holds n := (Float.ofInt n).toFloat32.isFinite
  lt x y := x < y
  le x y := x ≤ y
  truncate x := Scalar.truncate x.toFloat
  floor x := Scalar.floor x.toFloat
  nearest x := Scalar.nearest x.toFloat
  tenths x := (Decimal.roundPlaces 1 x.toFloat).toFloat32
  text x := Decimal.floatText x.toFloat

/-! ### Integers, in which whole cells are addressed -/

instance : Scalar Int where
  ofInt n := n
  holds _ := true
  lt m n := decide (m < n)
  le m n := decide (m ≤ n)
  truncate n := .ok n
  floor n := .ok n
  nearest n := .ok n
  tenths n := n
  text n := toString n

/-! ### Exact rationals -/

/-- The integer nearest to a rational, a tie going to the even one. -/
def nearestInteger (q : Rat) : Int :=
  let below := q.floor
  let rest := q - below
  if rest < 1 / 2 then below
  else if 1 / 2 < rest then below + 1
  else below + below % 2

def truncateRational (q : Rat) : Int := if 0 ≤ q then q.floor else -(-q).floor

instance : Scalar Rat where
  ofInt n := n
  holds _ := true
  lt p q := decide (p < q)
  le p q := decide (p ≤ q)
  truncate q := .ok (truncateRational q)
  floor q := .ok q.floor
  nearest q := .ok (nearestInteger q)
  tenths q := (nearestInteger (q * 10) : Rat) / 10
  text q := if q.den = 1 then toString q.num else toString q.num ++ "/" ++ toString q.den

end Elevation
