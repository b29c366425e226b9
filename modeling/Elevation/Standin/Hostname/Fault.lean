import Elevation.Text.Quoted

/-!
Why a label of a host name is refused.

Labels are lists of code points, since a label that was written in ASCII may stand for code points
that are no characters.
-/
namespace Elevation.Standin.Hostname

structure Spot where
  code : Nat
  place : Nat
  label : List Nat
  deriving DecidableEq, Repr

inductive Fault where
  | empty
  | labelTooLong
  | domainTooLong
  | emptyDomain
  | notComposed
  | innerHyphens
  | outerHyphen
  | leadingMark
  | forbidden (spot : Spot)
  | joiner (spot : Spot)
  | unknownNeighbour (spot : Spot)
  | context (spot : Spot)
  | unknownDirection (place : Nat) (label : List Nat)
  | firstDirection (label : List Nat)
  | directionWithinRight (place : Nat)
  | directionWithinLeft (place : Nat)
  | mixedNumerals
  | lastDirection
  | noDigits
  | trailingHyphen
  | unreadable
  deriving DecidableEq, Repr

/-- A code point as it stands in messages, with at least four upper-case digits. -/
def codeText (code : Nat) : String :=
  let digits := (Nat.toDigits 16 code).map Char.toUpper
  "U+" ++ String.ofList (List.replicate (4 - digits.length) '0' ++ digits)

def Fault.message : Fault → String
  | .empty => "Empty Label"
  | .labelTooLong => "Label too long"
  | .domainTooLong => "Domain too long"
  | .emptyDomain => "Empty domain"
  | .notComposed => "Label must be in Normalization Form C"
  | .innerHyphens => "Label has disallowed hyphens in 3rd and 4th position"
  | .outerHyphen => "Label must not start or end with a hyphen"
  | .leadingMark => "Label begins with an illegal combining character"
  | .forbidden spot =>
    "Codepoint " ++ codeText spot.code ++ " at position " ++ toString spot.place ++ " of "
      ++ Text.quotedCodes spot.label ++ " not allowed"
  | .joiner spot =>
    "Joiner " ++ codeText spot.code ++ " not allowed at position " ++ toString spot.place ++ " in "
      ++ Text.quotedCodes spot.label
  | .unknownNeighbour spot =>
    "Unknown codepoint adjacent to joiner " ++ codeText spot.code ++ " at position "
      ++ toString spot.place ++ " in " ++ Text.quotedCodes spot.label
  | .context spot =>
    "Codepoint " ++ codeText spot.code ++ " not allowed at position " ++ toString spot.place
      ++ " in " ++ Text.quotedCodes spot.label
  | .unknownDirection place label =>
    "Unknown directionality in label " ++ Text.quotedCodes label ++ " at position "
      ++ toString place
  | .firstDirection label =>
    "First codepoint in label " ++ Text.quotedCodes label
      ++ " must be directionality L, R or AL"
  | .directionWithinRight place =>
    "Invalid direction for codepoint at position " ++ toString place ++ " in a right-to-left label"
  | .directionWithinLeft place =>
    "Invalid direction for codepoint at position " ++ toString place ++ " in a left-to-right label"
  | .mixedNumerals => "Can not mix numeral types in a right-to-left label"
  | .lastDirection => "Label ends with illegal codepoint directionality"
  | .noDigits => "Malformed A-label, no Punycode eligible content found"
  | .trailingHyphen => "A-label must not end with a hyphen"
  | .unreadable => "Invalid A-label"

def Fault.kind : Fault → String
  | .forbidden _ => "InvalidCodepoint"
  | .joiner _ | .context _ => "InvalidCodepointContext"
  | .unknownDirection .. | .firstDirection _ | .directionWithinRight _ | .directionWithinLeft _
  | .mixedNumerals | .lastDirection => "IDNABidiError"
  | _ => "IDNAError"

end Elevation.Standin.Hostname
