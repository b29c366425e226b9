import Elevation.Text.Blank

/-!
Reading decimal numbers.

A number is a run of digits with an optional point, sign and exponent; the spellings of infinity
and of the value that is no number are known in any case. `DigitSet` says which characters are
digits and which surround a number: command lines take every script, settings ASCII alone.
-/
namespace Elevation.Decimal

open Elevation.Text

structure DigitSet where
  value? : Char → Option Nat
  blank : Char → Bool

def DigitSet.everyScript : DigitSet := ⟨digitValue?, isSpace⟩

def DigitSet.ascii : DigitSet :=
  ⟨fun c => if isAsciiDigit c then some (c.toNat - 48) else none, isSpace⟩

def DigitSet.isDigit (set : DigitSet) (c : Char) : Bool := (set.value? c).isSome

def DigitSet.span (set : DigitSet) (text : List Char) : List Nat × List Char :=
  ((text.takeWhile set.isDigit).filterMap set.value?, text.dropWhile set.isDigit)

/-- The text without its underscores, each of which must stand between two digits. -/
def DigitSet.joined? (set : DigitSet) (afterDigit : Bool) : List Char → Option (List Char)
  | [] => some []
  | '_' :: rest =>
    if afterDigit && (rest.head?.map set.isDigit).getD false then set.joined? false rest else none
  | c :: rest => (set.joined? (set.isDigit c) rest).map (c :: ·)

def hasDoubleUnderscore : List Char → Bool
  | '_' :: '_' :: _ => true
  | _ :: rest => hasDoubleUnderscore rest
  | [] => false

/-- The text without its underscores, none of which stands at an end or beside another. -/
def looselyJoined? (text : List Char) : Option (List Char) :=
  if text.head? = some '_' || text.getLast? = some '_' || hasDoubleUnderscore text then none
  else some (text.filter (· ≠ '_'))

def splitSign : List Char → Bool × List Char
  | '-' :: rest => (true, rest)
  | '+' :: rest => (false, rest)
  | text => (false, text)

/-- `mantissa * 10 ^ exponent`. -/
structure Written where
  mantissa : Nat
  exponent : Int
  deriving DecidableEq, Repr

/-- An exponent with its mark, or nothing at all. -/
def DigitSet.exponent? (set : DigitSet) : List Char → Option Int
  | [] => some 0
  | c :: rest =>
    if c = 'e' ∨ c = 'E' then
      let (negative, rest) := splitSign rest
      let (digits, rest) := set.span rest
      if digits.isEmpty || !rest.isEmpty then none
      else
        let magnitude : Int := ofDigits digits
        some (if negative then -magnitude else magnitude)
    else none

def DigitSet.unsigned? (set : DigitSet) (text : List Char) : Option Written :=
  let (whole, rest) := set.span text
  let (fraction, rest) :=
    match rest with
    | '.' :: rest => set.span rest
    | rest => ([], rest)
  if whole.isEmpty && fraction.isEmpty then none
  else (set.exponent? rest).map fun exponent =>
    ⟨ofDigits (whole ++ fraction), exponent - fraction.length⟩

/-- The double nearest to a decimal; magnitudes beyond every double are cut off first. -/
def Written.toFloat (number : Written) : Float :=
  let leading : Int := (Nat.toDigits 10 number.mantissa).length + number.exponent
  if number.mantissa = 0 || leading < -400 then 0.0
  else if 400 < leading then 1.0 / 0.0
  else Float.ofScientific number.mantissa (number.exponent < 0) number.exponent.natAbs

private def lowered (text : List Char) : List Char := text.map Char.toLower

/-- The magnitude that an unsigned text writes, spelled-out values included. -/
def DigitSet.magnitude? (set : DigitSet) (text : List Char) : Option Float :=
  let word := String.ofList (lowered text)
  if word = "inf" ∨ word = "infinity" then some (1.0 / 0.0)
  else if word = "nan" then some (0.0 / 0.0)
  else (set.unsigned? text).map Written.toFloat

def DigitSet.float? (set : DigitSet) (text : List Char) : Option Float :=
  let (negative, rest) := splitSign text
  (set.magnitude? rest).map fun magnitude => if negative then -magnitude else magnitude

def mostDigits : Nat := 4300

def DigitSet.int? (set : DigitSet) (text : List Char) : Option Int :=
  let (negative, rest) := splitSign text
  let (digits, after) := set.span rest
  if digits.isEmpty || !after.isEmpty || mostDigits < digits.length then none
  else
    let magnitude : Int := ofDigits digits
    some (if negative then -magnitude else magnitude)

def argumentFloat? (text : String) : Option Float :=
  let set := DigitSet.everyScript
  (set.joined? false (trimBy set.blank text.toList)).bind set.float?

def argumentInt? (text : String) : Option Int :=
  let set := DigitSet.everyScript
  (set.joined? false (trimBy set.blank text.toList)).bind set.int?

end Elevation.Decimal
