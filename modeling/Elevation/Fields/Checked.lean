import Elevation.Json.Value
import Elevation.Scalar

/-!
Reading records from structured data, every fault being reported.

A reader gives a value or the list of all issues; issues of several members are put one after the
other. What counts as a value of a type, and how an issue is worded, is up to a library, which is a
parameter here.
-/
namespace Elevation.Fields

structure Issue where
  kind : String
  path : List String
  message : String
  deriving DecidableEq, Repr

abbrev Checked (α : Type) := Except (List Issue) α

abbrev Members := List (String × Json)

/-- The library that turns structured data into values. `least`, `span` and `above` look at a number that
has been read, `missing` and `extra` are its issues about members that are not there and about unknown
ones, and `rejection` is the issue in which it wraps what a check of the program itself says. -/
class Coercion where
  string : Json → Checked String
  path : Json → Checked String
  int : Json → Checked Int
  float : Json → Checked Float
  bool : Json → Checked Bool
  list : {α : Type} → (Json → Checked α) → Json → Checked (List α)
  dictionary : Json → Checked (List (String × Json))
  record : {α : Type} → (name : String) → (Members → Checked α) → Json → Checked α
  least : (bound : Int) → Int → Checked Int
  span : (low high : Int) → Float → Checked Float
  above : (bound : Int) → Float → Checked Float
  missing : Issue
  extra : Issue
  rejection : String → Issue
  /-- What the library raises about a record that it refuses. -/
  complaint : (record : String) → List Issue → (found : Json) → String

export Coercion (string path int float bool list dictionary record rejection)

/-- As the library says: whatever already has the right type is taken as it is, a bound is kept by the
numbers beyond it and by no others, and what is refused has an issue. -/
class Coercion.Lawful [Coercion] : Prop where
  string_text (text : String) : string (.string text) = .ok text
  path_text (text : String) : path (.string text) = .ok text
  int_whole (value : Int) : int (.int value) = .ok value
  float_number (value : Float) : float (.float value) = .ok value
  above_eq_ok (bound : Int) (x y : Float) :
    above bound x = .ok y ↔ Scalar.lt (Scalar.ofInt bound) x = true ∧ x = y
  int_honest (value : Json) : int value ≠ .error []
  float_honest (value : Json) : float value ≠ .error []
  above_honest (bound : Int) (x : Float) : above bound x ≠ .error []

/-! ### Records -/

def below {α : Type} (name : String) (checked : Checked α) : Checked α :=
  checked.mapError fun issues => issues.map fun issue => { issue with path := name :: issue.path }

/-- Applies a function that was read to an argument that was read; the issues of both are kept. -/
def ap {α β : Type} : Checked (α → β) → Checked α → Checked β
  | .ok f, .ok x => .ok (f x)
  | .ok _, .error issues => .error issues
  | .error issues, .ok _ => .error issues
  | .error issues, .error more => .error (issues ++ more)

section

variable [Coercion]

def required {α : Type} (members : Members) (name : String) (read : Json → Checked α) : Checked α :=
  below name <|
    match members.lookup name with
    | none => .error [Coercion.missing]
    | some value => read value

/-- A member that has a value of its own when it is left out. -/
def optional {α : Type} (members : Members) (name : String) (default : Checked α)
    (read : Json → Checked α) : Checked α :=
  below name <|
    match members.lookup name with
    | none => default
    | some value => read value

def surplus (members : Members) (known : List String) : List Issue :=
  (members.filter fun member => !known.contains member.1).map fun member =>
    { Coercion.extra with path := [member.1] }

def closed {α : Type} (members : Members) (known : List String) (checked : Checked α) : Checked α :=
  match checked, surplus members known with
  | .error issues, extra => .error (issues ++ extra)
  | .ok value, [] => .ok value
  | .ok _, extra => .error extra

/-! ### Values -/

def nullable {α : Type} (read : Json → Checked α) : Json → Checked (Option α)
  | .null => .ok none
  | value => (read value).map some

def atLeast (bound : Int) (read : Json → Checked Int) (value : Json) : Checked Int :=
  (read value).bind (Coercion.least bound)

def between (low high : Int) (read : Json → Checked Float) (value : Json) : Checked Float :=
  (read value).bind (Coercion.span low high)

def positive (read : Json → Checked Float) (value : Json) : Checked Float :=
  (read value).bind (Coercion.above 0)

end

end Elevation.Fields
