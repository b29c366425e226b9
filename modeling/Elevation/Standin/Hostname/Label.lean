import Elevation.Standin.Hostname.Direction
import Elevation.Standin.Hostname.Fault
import Elevation.Standin.Hostname.Joining
import Elevation.Standin.Hostname.Permitted
import Elevation.Standin.Hostname.Punycode
import Elevation.Standin.Hostname.Composed

/-!
The labels between the dots of a host name.

A label is written in ASCII, either as it is or by the punycode of its characters behind a marker.
Before it is written, and after it was read, it is checked: it has to be in composed form, hyphens
must not stand at its ends or where the marker has them, it must not begin with a mark, and each of
its characters has to be permitted where it stands.
-/
namespace Elevation.Standin.Hostname

/-! ### Characters that depend on their neighbours -/

def nonJoiner : Nat := 0x200c
def joiner : Nat := 0x200d

def isJoiner (code : Nat) : Bool := code = nonJoiner || code = joiner

/-- Whether the character before a place, if there is one, is known to have some combining class.
Only the latest characters, which have no direction yet, are unknown. -/
def knowsNeighbour (before : List Nat) : Bool :=
  match before with
  | [] => true
  | code :: _ => Text.combiningClass code ≠ 0 || (direction? code).isSome

/-- Whether a joiner may stand between the characters before it, nearest first, and those after. -/
def fitsJoiner (code : Nat) (before after : List Nat) : Bool :=
  match before with
  | [] => code = nonJoiner && joinsAcross before after
  | last :: _ =>
    Text.combiningClass last = Text.viramaClass || (code = nonJoiner && joinsAcross before after)

def middleDot : Nat := 0xb7
def greekNumeralSign : Nat := 0x375
def katakanaDot : Nat := 0x30fb

def isHebrewMark (code : Nat) : Bool := code = 0x5f3 || code = 0x5f4

def isArabicDigit (code : Nat) : Bool := 0x660 ≤ code && code ≤ 0x669

def isPersianDigit (code : Nat) : Bool := 0x6f0 ≤ code && code ≤ 0x6f9

def isContextual (code : Nat) : Bool :=
  code = middleDot || code = greekNumeralSign || code = katakanaDot || isHebrewMark code
    || isArabicDigit code || isPersianDigit code

def fitsContext (code : Nat) (before after : List Nat) : Bool :=
  let smallL := some 0x6c
  if code = middleDot then before.head? = smallL && after.head? = smallL
  else if code = greekNumeralSign then after.head?.any isGreek
  else if code = katakanaDot then (before ++ after).any isJapanese
  else if isHebrewMark code then before.head?.any isHebrew
  else if isArabicDigit code then !(before ++ after).any isPersianDigit
  else !(before ++ after).any isArabicDigit

def spotFault? (spot : Spot) (before after : List Nat) : Option Fault :=
  if isPermitted spot.code then none
  else if isJoiner spot.code then
    if !knowsNeighbour before then some (.unknownNeighbour spot)
    else if fitsJoiner spot.code before after then none
    else some (.joiner spot)
  else if isContextual spot.code then
    if fitsContext spot.code before after then none else some (.context spot)
  else some (.forbidden spot)

def firstSpotFault? (label before : List Nat) : List Nat → Option Fault
  | [] => none
  | code :: after =>
    (spotFault? ⟨code, before.length + 1, label⟩ before after).or
      (firstSpotFault? label (code :: before) after)

/-! ### Checking -/

def longestDomain : Nat := 254
def longestPlainDomain : Nat := 253

def longestLabel : Nat := 63

def hyphen : Nat := Punycode.hyphen

def hasInnerHyphens (label : List Nat) : Bool := (label.drop 2).take 2 = [hyphen, hyphen]

def hasOuterHyphen (label : List Nat) : Bool :=
  label.head? = some hyphen || label.getLast? = some hyphen

def ofDirectionFault (label : List Nat) : DirectionFault → Fault
  | .unknown place => .unknownDirection place label
  | .firstCharacter => .firstDirection label
  | .withinRight place => .directionWithinRight place
  | .withinLeft place => .directionWithinLeft place
  | .mixedNumerals => .mixedNumerals
  | .lastCharacter => .lastDirection

def labelFault? (label : List Nat) : Option Fault :=
  if label.isEmpty then some .empty
  else if longestDomain < label.length then some .labelTooLong
  else if !Text.isComposed label then some .notComposed
  else if hasInnerHyphens label then some .innerHyphens
  else if hasOuterHyphen label then some .outerHyphen
  else if label.head?.any Text.isMark then some .leadingMark
  else (firstSpotFault? label [] label).or ((directionFault? label).map (ofDirectionFault label))

def check (label : List Nat) : Except Fault (List Nat) :=
  match labelFault? label with
  | some fault => .error fault
  | none => .ok label

/-! ### Writing and reading -/

def marker : List Nat := [120, 110, hyphen, hyphen]

def isAscii (label : List Nat) : Bool := label.all (· < 0x80)

def readLabel (label : List Nat) : Except Fault (List Nat) :=
  if marker.isPrefixOf label then
    let written := label.drop marker.length
    if written.isEmpty then .error .noDigits
    else if written.getLast? = some hyphen then .error .trailingHyphen
    else
      match Punycode.decode? written with
      | none => .error .unreadable
      | some label => check label
  else check label

def writeLabel (label : List Nat) : Except Fault (List Nat) :=
  let written :=
    if isAscii label then (readLabel label).map fun _ => label
    else (check label).map fun label => marker ++ Punycode.encode label
  match written with
  | .error fault => .error fault
  | .ok written => if longestLabel < written.length then .error .labelTooLong else .ok written

end Elevation.Standin.Hostname
