import Elevation.Decimal.Shortest

/-!
How floating-point numbers are written.

A style says where positional notation ends, how an exponent is written and how the values that
are no numbers are spelled. `plain` stands in messages and answers, `document` in structured
output; both keep one digit after the point of an integral number. With a fixed count of decimal
places, the exact binary value is rounded once to the last place, a tie going to the even digit, so
`0.25` has the one-place text `0.2`.
-/
namespace Elevation.Decimal

structure Style where
  /-- Numbers whose leading digit has an exponent from `lowest` on and below `highest` are
  written positionally. -/
  lowest : Int
  highest : Int
  exponentPlaces : Nat
  nan : String
  infinity : String
  minusInfinity : String

def Style.plain : Style := ⟨-4, 16, 2, "nan", "inf", "-inf"⟩

/-- Structured output has no spelling for the values that are no numbers. -/
def Style.document : Style := ⟨-5, 16, 1, "null", "null", "null"⟩

def digitChars (n : Nat) : List Char := Nat.toDigits 10 n

def padded (places n : Nat) : List Char :=
  let digits := digitChars n
  List.replicate (places - digits.length) '0' ++ digits

def exponentText (places : Nat) (exponent : Int) : List Char :=
  'e' :: (if exponent < 0 then '-' else '+') :: padded places exponent.natAbs

/-- Digits without an exponent; `point` digits stand before the decimal point. -/
def positional (digits : List Char) (point : Int) : List Char :=
  if (digits.length : Int) ≤ point then
    digits ++ List.replicate (point - digits.length).toNat '0' ++ ['.', '0']
  else if 0 < point then digits.take point.toNat ++ '.' :: digits.drop point.toNat
  else '0' :: '.' :: List.replicate (-point).toNat '0' ++ digits

/-- One digit before the point, the others after it, then the exponent. -/
def exponential (places : Nat) (digits : List Char) (exponent : Int) : List Char :=
  match digits with
  | [] => []
  | [digit] => digit :: exponentText places exponent
  | digit :: rest => digit :: '.' :: rest ++ exponentText places exponent

def Style.magnitude (style : Style) (decimal : Scientific) : List Char :=
  let digits := digitChars decimal.digits
  let leading : Int := digits.length - 1 + decimal.exponent
  if style.lowest ≤ leading ∧ leading < style.highest then positional digits (leading + 1)
  else exponential style.exponentPlaces digits leading

def Style.write (style : Style) (x : Float) : String :=
  match Binary.ofFloat x with
  | .nan => style.nan
  | .infinite negative => if negative then style.minusInfinity else style.infinity
  | .finite negative significand exponent =>
    let digits :=
      if significand = 0 then ['0', '.', '0'] else style.magnitude (shortest significand exponent)
    String.ofList (if negative then '-' :: digits else digits)

def floatText (x : Float) : String := Style.plain.write x

/-! ### A fixed count of decimal places -/

def unitsOf (places : Nat) (significand : Nat) (exponent : Int) : Nat :=
  let value := Ratio.scaled significand exponent
  roundDiv (value.num * Nat.pow 10 places) value.den

def placesText (places units : Nat) : List Char :=
  if places = 0 then digitChars units
  else
    let digits := padded (places + 1) units
    digits.take (digits.length - places) ++ '.' :: digits.drop (digits.length - places)

/-- A double with exactly `places` digits after the point; the sign stays on a zero. -/
def fixedText (places : Nat) (x : Float) : String :=
  match Binary.ofFloat x with
  | .nan => "nan"
  | .infinite negative => if negative then "-inf" else "inf"
  | .finite negative significand exponent =>
    let digits := placesText places (unitsOf places significand exponent)
    String.ofList (if negative then '-' :: digits else digits)

def roundPlaces (places : Nat) (x : Float) : Float :=
  match Binary.ofFloat x with
  | .nan | .infinite _ => x
  | .finite negative significand exponent =>
    if 0 ≤ exponent then x
    else
      let magnitude := Float.ofScientific (unitsOf places significand exponent) true places
      if negative then -magnitude else magnitude

end Elevation.Decimal
