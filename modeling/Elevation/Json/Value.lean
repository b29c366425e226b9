/-!
Structured data: the values that requests bring and answers consist of.

Whole and floating-point numbers are told apart. The members of an object keep their order.
-/
namespace Elevation

inductive Json where
  | null
  | bool (value : Bool)
  | int (value : Int)
  | float (value : Float)
  | string (value : String)
  | list (items : List Json)
  | object (members : List (String × Json))

namespace Json

/-- The value of a member; none when the value is no object or has no such member. -/
def find? (key : String) : Json → Option Json
  | object members => members.lookup key
  | _ => none

def ofNat (n : Nat) : Json := int n

def ofOption {α : Type} (encode : α → Json) : Option α → Json
  | none => null
  | some value => encode value

def ofList {α : Type} (encode : α → Json) (items : List α) : Json := list (items.map encode)

def texts (items : List String) : Json := ofList string items

def floats (items : List Float) : Json := ofList float items

end Json

end Elevation
