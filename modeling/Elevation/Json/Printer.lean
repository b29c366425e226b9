import Elevation.Decimal.Written
import Elevation.Json.Value
import Elevation.Text.Quoted

/-!
Writing structured data.

Nothing stands between the parts of a value but commas and colons. A text escapes the double quote,
the backslash and the control characters below the space; everything else stands as it is. In a line of
readable text a value is shown with spaces, and with words for truth values and the empty value.
-/
namespace Elevation.Json

/-! ### Documents -/

def escapedChar (c : Char) : List Char :=
  if c = '"' then ['\\', '"']
  else if c = '\\' then ['\\', '\\']
  else if c = '\n' then ['\\', 'n']
  else if c = '\r' then ['\\', 'r']
  else if c = '\t' then ['\\', 't']
  else if c.toNat = 8 then ['\\', 'b']
  else if c.toNat = 12 then ['\\', 'f']
  else if c.toNat < 32 then '\\' :: 'u' :: Text.hexDigits 4 c.toNat
  else [c]

def escaped (text : String) : String :=
  String.ofList ('"' :: text.toList.flatMap escapedChar ++ ['"'])

mutual

def write (style : Decimal.Style) : Json → String
  | null => "null"
  | bool value => if value then "true" else "false"
  | int value => toString value
  | float value => style.write value
  | string value => escaped value
  | list items => "[" ++ writeItems style "" items ++ "]"
  | object members => "\x7b" ++ writeMembers style "" members ++ "\x7d"

def writeItems (style : Decimal.Style) (before : String) : List Json → String
  | [] => before
  | [item] => before ++ write style item
  | item :: next :: rest => writeItems style (before ++ write style item ++ ",") (next :: rest)

def writeMembers (style : Decimal.Style) (before : String) : List (String × Json) → String
  | [] => before
  | [(key, value)] => before ++ escaped key ++ ":" ++ write style value
  | (key, value) :: next :: rest =>
    writeMembers style (before ++ escaped key ++ ":" ++ write style value ++ ",") (next :: rest)

end

def document (value : Json) : String := value.write Decimal.Style.document

/-! ### Readable text -/

mutual

def shownInside : Json → String
  | null => "None"
  | bool value => if value then "True" else "False"
  | int value => toString value
  | float value => Decimal.floatText value
  | string value => Text.quoted value
  | list items => "[" ++ String.intercalate ", " (shownItems items) ++ "]"
  | object members => "\x7b" ++ String.intercalate ", " (shownMembers members) ++ "\x7d"

def shownItems : List Json → List String
  | [] => []
  | item :: rest => shownInside item :: shownItems rest

def shownMembers : List (String × Json) → List String
  | [] => []
  | (key, value) :: rest => (Text.quoted key ++ ": " ++ shownInside value) :: shownMembers rest

end

/-- A text on its own stands as it is; within lists and objects it is quoted. -/
def shown : Json → String
  | string value => value
  | value => shownInside value

end Elevation.Json
