import Elevation.Coverage.Listing
import Elevation.Decimal.Read
import Elevation.Fields.Checked
import Elevation.Tile.Samples

/-!
What runs of the program need that is not part of it: a machine with its users, the files that were
installed with the program, and a library that turns structured data into values. What is proved of all
inputs holds with any of these.
-/
namespace Elevation.Standin

/-- Room for 64 GiB, and files in blocks of 4096 bytes whose numbers have 32 bits. -/
scoped instance machine : Machine where
  mostReserved := 0x1000000000
  largestFile := 4096 * 0xffffffff
  ample := by decide
  counted := by decide

/-- The administrator is the only user. -/
def accounts : Disk.Homes := fun user => if user.isEmpty || user = "root" then some "/root" else none

/-- An archive that was converted to text and back, so that its end record speaks of a directory that is
not there, as happens to lists that are kept as text. -/
def damagedList : ByteArray :=
  ⟨Array.replicate 46 0 ++ #[0x50, 0x4b, 5, 6, 0, 0, 0, 0, 1, 0, 1, 0, 46, 0, 0, 0, 0, 0, 0, 0, 0, 0]⟩

def bundled (name : String) : Except Disk.Refusal ByteArray :=
  if (Coverage.partitions.map Coverage.Listing.fileName).contains name then .ok damagedList
  else .error ⟨.noEntry, some name⟩

/-!
### Values from structured data

Numbers may come as text, whole numbers as integral floating-point numbers, and truth values count
as zero and one. Whatever else has the wrong type is an issue, and so is a number out of bounds.
-/

open Elevation.Decimal
open Fields (Checked Issue Members ap below)

def issue {α : Type} (kind message : String) : Checked α := .error [⟨kind, [], message⟩]

/-! #### Text -/

def string : Json → Checked String
  | .string text => .ok text
  | _ => issue "string_type" "Input should be a valid string"

def path : Json → Checked String
  | .string text => .ok text
  | _ => issue "path_type" "Input is not a valid path for <class 'pathlib.Path'>"

/-! #### Whole numbers -/

def withoutZeroFraction (text : List Char) : List Char :=
  match text.span (· ≠ '.') with
  | (whole, '.' :: fraction) =>
    if !fraction.isEmpty && fraction.all (· = '0') then whole else text
  | _ => text

/-- What follows leading zeros; `last` is the character before. Underscores between the zeros
count as zeros, a minus ends them, and the one before a point is kept. -/
def afterZeros? (last : Char) : List Char → Option (List Char)
  | [] => some [last]
  | c :: rest =>
    if c = '0' || c = '_' then afterZeros? c rest
    else if c.isDigit || c = '-' then some (c :: rest)
    else if c = '.' then some (last :: c :: rest)
    else none

def withoutZeros? : List Char → Option (List Char)
  | '0' :: rest => afterZeros? '0' rest
  | c :: rest => if c.isDigit || c = '-' then some (c :: rest) else none
  | [] => none

/-- A leading plus may be left out, unless a minus follows it. -/
def withoutPlus? : List Char → Option (List Char)
  | '+' :: '-' :: _ => none
  | '+' :: rest => some rest
  | text => some text

def plainInt? (text : String) : Option (List Char) :=
  ((withoutPlus? (Text.trimBy DigitSet.ascii.blank text.toList)).bind withoutZeros?).bind
    fun text => looselyJoined? (withoutZeroFraction text)

def mostIntCharacters : Nat := 4300

def isOverlong (text : List Char) : Bool :=
  mostIntCharacters < text.length
    && (text.take (mostIntCharacters + 1)).zipIdx.all fun (c, place) =>
      c.isDigit || (c = '-' && place = 0)

/-- The value of a plain form: digits without needless zeros, behind a minus or nothing. -/
def intOfPlain? (text : List Char) : Option Int :=
  let (negative, digits) :=
    match text with
    | '-' :: digits => (true, digits)
    | digits => (false, digits)
  if digits.isEmpty || !digits.all Char.isDigit || (digits.head? = some '0' && digits ≠ ['0']) then
    none
  else some (signed negative (Text.ofDigits (digits.map fun c => c.toNat - 48)))

def wordBound : Nat := 1 <<< 63

def intTooLarge : Checked Int :=
  issue "int_parsing_size" "Unable to parse input string as an integer, exceeded maximum size"

/-- A floating-point number without fraction, in the range of 64 bits. -/
def intOfFloat (x : Float) : Checked Int :=
  match Binary.ofFloat x with
  | .nan | .infinite _ => issue "finite_number" "Input should be a finite number"
  | .finite negative significand exponent =>
    let value := Ratio.scaled significand exponent
    if value.num % value.den ≠ 0 then
      issue "int_from_float" "Input should be a valid integer, got a number with a fractional part"
    else if wordBound ≤ value.num / value.den then intTooLarge
    else .ok (signed negative (value.num / value.den))

def int : Json → Checked Int
  | .int value => .ok value
  | .bool value => .ok (if value then 1 else 0)
  | .float value => intOfFloat value
  | .string text =>
    let wrong := issue "int_parsing"
      "Input should be a valid integer, unable to parse string as an integer"
    match plainInt? text with
    | none => wrong
    | some plain =>
      if isOverlong plain then intTooLarge
      else
        match intOfPlain? plain with
        | some value => .ok value
        | none => wrong
  | _ => issue "int_type" "Input should be a valid integer"

/-! #### Floating-point numbers -/

/-- A number as settings write it: between blanks, or without blanks and with underscores between
its characters, which do not count. -/
def floatOfText? (text : String) : Option Float :=
  let set := DigitSet.ascii
  match set.float? (Text.trimBy set.blank text.toList) with
  | some value => some value
  | none => (looselyJoined? text.toList).bind set.float?

def wrongFloat : Checked Float := issue "float_type" "Input should be a valid number"

def floatOfInt (value : Int) : Checked Float :=
  let nearest := Float.ofInt value
  if nearest.isInf then wrongFloat else .ok nearest

def float : Json → Checked Float
  | .float value => .ok value
  | .int value => floatOfInt value
  | .bool value => .ok (if value then 1.0 else 0.0)
  | .string text =>
    match floatOfText? text with
    | some value => .ok value
    | none =>
      issue "float_parsing" "Input should be a valid number, unable to parse string as a number"
  | _ => wrongFloat

/-! #### Truth values -/

def trueWords : List String := ["1", "on", "t", "true", "y", "yes"]
def falseWords : List String := ["0", "off", "f", "false", "n", "no"]

def unknownBool : Checked Bool :=
  issue "bool_parsing" "Input should be a valid boolean, unable to interpret input"

def wrongBool : Checked Bool := issue "bool_type" "Input should be a valid boolean"

def boolOfInt (value : Int) : Checked Bool :=
  if value = 0 then .ok false else if value = 1 then .ok true else unknownBool

def bool : Json → Checked Bool
  | .bool value => .ok value
  | .int value => if value.natAbs < wordBound then boolOfInt value else wrongBool
  | .float value =>
    match intOfFloat value with
    | .ok value => boolOfInt value
    | .error _ => wrongBool
  | .string text =>
    let word := String.ofList (text.toList.map Char.toLower)
    if trueWords.contains word then .ok true
    else if falseWords.contains word then .ok false
    else unknownBool
  | _ => wrongBool

/-! #### Compound values -/

def itemsFrom {α : Type} (read : Json → Checked α) : (place : Nat) → List Json → Checked (List α)
  | _, [] => .ok []
  | place, item :: rest =>
    ap ((below (toString place) (read item)).map List.cons) (itemsFrom read (place + 1) rest)

def list {α : Type} (read : Json → Checked α) : Json → Checked (List α)
  | .list items => itemsFrom read 0 items
  | _ => issue "list_type" "Input should be a valid list"

def dictionary : Json → Checked (List (String × Json))
  | .object members => .ok members
  | _ => issue "dict_type" "Input should be a valid dictionary"

def record {α : Type} (name : String) (read : Members → Checked α) : Json → Checked α
  | .object members => read members
  | _ => issue "model_type" ("Input should be a valid dictionary or instance of " ++ name)

/-! #### Bounds -/

def least (bound value : Int) : Checked Int :=
  if bound ≤ value then .ok value
  else issue "greater_than_equal" ("Input should be greater than or equal to " ++ toString bound)

/-- A number within bounds; the upper one is looked at first. -/
def span (low high : Int) (x : Float) : Checked Float :=
  if !Scalar.le x (Scalar.ofInt high) then
    issue "less_than_equal" ("Input should be less than or equal to " ++ toString high)
  else if !Scalar.le (Scalar.ofInt low) x then
    issue "greater_than_equal" ("Input should be greater than or equal to " ++ toString low)
  else .ok x

def above (bound : Int) (x : Float) : Checked Float :=
  if Scalar.lt (Scalar.ofInt bound) x then .ok x
  else issue "greater_than" ("Input should be greater than " ++ toString bound)

/-! #### The library -/

def shownInput : Json → String
  | .int value => "input_value=" ++ toString value ++ ", input_type=int"
  | _ => ""

def complaint (record : String) (issues : List Issue) (found : Json) : String :=
  match issues with
  | [] => ""
  | issue :: _ =>
    toString issues.length
      ++ (if issues.length = 1 then " validation error for " else " validation errors for ") ++ record ++ "\n"
      ++ String.intercalate "." issue.path ++ "\n  " ++ issue.message ++ " [type=" ++ issue.kind ++ ", "
      ++ shownInput found ++ "]\n    For further information visit https://errors.pydantic.dev/2.14/v/"
      ++ issue.kind

scoped instance coercion : Fields.Coercion where
  string := string
  path := path
  int := int
  float := float
  bool := bool
  list := list
  dictionary := dictionary
  record := record
  least := least
  span := span
  above := above
  missing := ⟨"missing", [], "Field required"⟩
  extra := ⟨"extra_forbidden", [], "Extra inputs are not permitted"⟩
  rejection reason := ⟨"value_error", [], "Value error, " ++ reason⟩
  complaint := complaint

/-! #### It keeps its word -/

theorem issue_ne {α : Type} (kind message : String) : (issue kind message : Checked α) ≠ .error [] := nofun

theorem intOfFloat_ne (x : Float) : intOfFloat x ≠ .error [] := by
  unfold intOfFloat
  split
  · exact issue_ne _ _
  · exact issue_ne _ _
  · dsimp only
    split
    · exact issue_ne _ _
    · split
      · exact issue_ne _ _
      · nofun

theorem int_ne (value : Json) : int value ≠ .error [] := by
  unfold int
  split
  · nofun
  · nofun
  · exact intOfFloat_ne _
  · dsimp only
    split
    · exact issue_ne _ _
    · split
      · exact issue_ne _ _
      · split
        · nofun
        · exact issue_ne _ _
  · exact issue_ne _ _

theorem float_ne (value : Json) : float value ≠ .error [] := by
  unfold float
  split
  · nofun
  · dsimp only [floatOfInt]
    split
    · exact issue_ne _ _
    · nofun
  · nofun
  · split
    · nofun
    · exact issue_ne _ _
  · exact issue_ne _ _

scoped instance : Fields.Coercion.Lawful where
  string_text _ := rfl
  path_text _ := rfl
  int_whole _ := rfl
  float_number _ := rfl
  above_eq_ok bound x y := by
    change above bound x = .ok y ↔ _
    unfold above
    split <;> simp_all [issue]
  int_honest := int_ne
  float_honest := float_ne
  above_honest bound x := by
    change above bound x ≠ .error []
    unfold above
    split
    · nofun
    · exact issue_ne _ _

end Elevation.Standin
