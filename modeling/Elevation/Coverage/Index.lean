import Elevation.Coverage.Code
import Std.Data.TreeMap

/-!
Which partition of the archive tree holds a cell.

An index is built once from lists of codes, one list per partition, and never changes. Blank lines
are skipped; a malformed code or a cell listed twice ends the construction at once.
-/
namespace Elevation.Coverage

/-- Cell keys with their partitions, the one listed last in front, and the same in the order of the
keys, to be looked up in. -/
structure Index where
  recent : List (Int × String)
  found : Std.TreeMap Int String
  agrees : ∀ key, found[key]? = recent.lookup key

def partitions : List String :=
  ["Africa", "Australia", "Eurasia", "Islands", "North_America", "South_America"]

namespace Index

def empty : Index := ⟨[], ∅, by simp⟩

/-- Cell keys with their partitions, in the order in which they were listed. -/
def areas (index : Index) : List (Int × String) := index.recent.reverse

def find? (index : Index) (key : Int) : Option String := index.found[key]?

def contains (index : Index) (key : Int) : Bool := (index.find? key).isSome

def size (index : Index) : Nat := index.areas.length

def keys (index : Index) : List Int := index.areas.map Prod.fst

/-- Lists one more cell, which goes before an earlier one of the same key. -/
def push (index : Index) (key : Int) (partition : String) : Index where
  recent := (key, partition) :: index.recent
  found := index.found.insert key partition
  agrees := by
    intro other
    rw [Std.TreeMap.getElem?_insert, List.lookup_cons, index.agrees]
    by_cases same : key = other
    · simp [same]
    · simp [same, beq_false_of_ne (Ne.symm same)]

def insert (index : Index) (partition : String) (cell : Cell) : Except Failure Index :=
  match index.find? cell.key with
  | some existing => .error (.duplicateArea cell.key existing partition)
  | none => .ok (index.push cell.key partition)

/-- Adds what one line lists; a blank line lists nothing. -/
def insertLine (partition : String) (index : Index) (line : List Char) : Except Failure Index :=
  if Text.allBlank line then .ok index
  else
    match parseCode partition line with
    | .error failure => .error failure
    | .ok cell => index.insert partition cell

def insertLines (partition : String) (index : Index) : List (List Char) → Except Failure Index
  | [] => .ok index
  | line :: lines =>
    match index.insertLine partition line with
    | .error failure => .error failure
    | .ok index => index.insertLines partition lines

def insertEntries (index : Index) : List (String × List (List Char)) → Except Failure Index
  | [] => .ok index
  | (partition, lines) :: entries =>
    match index.insertLines partition lines with
    | .error failure => .error failure
    | .ok index => index.insertEntries entries

def ofEntries (entries : List (String × List (List Char))) : Except Failure Index :=
  empty.insertEntries entries

def count (index : Index) (partition : String) : Nat :=
  (index.areas.filter fun area => area.2 = partition).length

/-- Every known and every listed partition once, in the order of their names. -/
def partitionNames (index : Index) : List String :=
  (partitions ++ index.areas.map Prod.snd).eraseDups.mergeSort (fun a b => decide (a ≤ b))

def partitionCounts (index : Index) : List (String × Nat) :=
  index.partitionNames.map fun partition => (partition, index.count partition)

def describe (index : Index) : String := "AreaIndex(" ++ toString index.size ++ " tiles)"

variable {α : Type} [Scalar α]

def lookup (index : Index) (place : Place α) : Except Failure String :=
  match place.validate with
  | .error failure => .error failure
  | .ok () =>
    match place.key with
    | .error failure => .error failure
    | .ok key =>
      match index.find? key with
      | some partition => .ok partition
      | none => .error (.areaNotFound key (Scalar.text place.lat) (Scalar.text place.lon))

def covers (index : Index) (place : Place α) : Except Failure Bool :=
  match place.validate with
  | .error failure => .error failure
  | .ok () => place.key.map index.contains

/-- The name of a cell below its partition, such as `Eurasia/N52E004`. -/
def qualifiedName (index : Index) (place : Place α) : Except Failure String :=
  match index.lookup place with
  | .error failure => .error failure
  | .ok partition => place.name.map fun name => partition ++ "/" ++ name

end Index

end Elevation.Coverage
