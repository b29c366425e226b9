/-!
Paths, as texts and as lists of names.

Reading a path drops empty names and single dots; `..` stays. A path that starts with one slash or
with three and more is absolute; two slashes are a root of their own.
-/
namespace Elevation.Disk

structure Path where
  root : String
  parts : List String
  deriving DecidableEq, Repr

namespace Path

/-- Cuts a text at every slash, `name` holding the characters of the open name in reverse. -/
def splitFrom (name : List Char) : List Char → List (List Char)
  | [] => [name.reverse]
  | c :: rest => if c = '/' then name.reverse :: splitFrom [] rest else splitFrom (c :: name) rest

def split (text : List Char) : List (List Char) := splitFrom [] text

def rootOf (text : List Char) : String :=
  match text.takeWhile (· = '/') with
  | [] => ""
  | ['/', '/'] => "//"
  | _ => "/"

def isName (name : List Char) : Bool := name ≠ [] && name ≠ ['.']

def ofText (text : String) : Path :=
  ⟨rootOf text.toList, ((split text.toList).filter isName).map String.ofList⟩

def text (path : Path) : String :=
  if path.root.isEmpty && path.parts.isEmpty then "."
  else path.root ++ String.intercalate "/" path.parts

def isAbsolute (path : Path) : Bool := !path.root.isEmpty

/-- What `other` names when looked up from `path`. -/
def join (path other : Path) : Path :=
  if other.isAbsolute then other else ⟨path.root, path.parts ++ other.parts⟩

def child (path : Path) (name : String) : Path := ⟨path.root, path.parts ++ [name]⟩

def name (path : Path) : String := path.parts.getLast?.getD ""

def withName (path : Path) (name : String) : Path := ⟨path.root, path.parts.dropLast ++ [name]⟩

def dropTrailing (c : Char) (text : List Char) : List Char :=
  (text.reverse.dropWhile (· = c)).reverse

/-- A home directory as a path; an empty one is the root. -/
def ofHome (home : String) : Path :=
  let trimmed := String.ofList (dropTrailing '/' home.toList)
  ofText (if trimmed.isEmpty then "/" else trimmed)

/-- The user whose home directory a leading tilde stands for; one's own home has no name behind it. -/
def user? (path : Path) : Option String :=
  match path.isAbsolute, path.parts with
  | false, first :: _ =>
    match first.toList with
    | '~' :: name => some (String.ofList name)
    | _ => none
  | _, _ => none

end Path

/-! ### Home directories -/

/-- The home directory of each user who is known to the system; one's own stands under the empty
name. -/
abbrev Homes := String → Option String

/-- Why a home directory cannot be had: there is none, or its user is asked for by a name that holds
the null character. -/
inductive HomeFault where
  | unknown
  | nullInName
  deriving DecidableEq, Repr

def HomeFault.message : HomeFault → String
  | .unknown => "Could not determine home directory."
  | .nullInName => "embedded null byte"

def HomeFault.kind : HomeFault → String
  | .unknown => "RuntimeError"
  | .nullInName => "ValueError"

/-- The home directory of a user. One whose own name begins with a tilde is no directory. -/
def Homes.pathOf (homes : Homes) (user : String) : Except HomeFault Path :=
  if user.toList.contains '\x00' then .error .nullInName
  else
    match homes user with
    | none => .error .unknown
    | some home => if home.toList.head? = some '~' then .error .unknown else .ok (.ofHome home)

/-- Puts the home directory in place of a leading tilde. -/
def Path.expandHome (homes : Homes) (path : Path) : Except HomeFault Path :=
  match path.user? with
  | none => .ok path
  | some user => (homes.pathOf user).map fun home => ⟨home.root, home.parts ++ path.parts.tail⟩

end Elevation.Disk
