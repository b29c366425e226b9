import Elevation.Disk.Fault
import Elevation.Disk.Path

/-!
A file system as a value.

A tree maps places, written as lists of names from the root, to directories and files. Paths are
walked name by name, so every name but the last has to be an existing directory. An operation gives
the changed tree or the reason why it is refused. A refused operation changes nothing, except that
directories which were made on the way to one that cannot be made stay. A tree says which names hold
which files and no more: there are no links in it and no permissions.
-/
namespace Elevation.Disk

inductive Node where
  | directory
  | file (bytes : ByteArray)

instance : DecidableEq Node
  | .directory, .directory => isTrue rfl
  | .directory, .file _ => isFalse nofun
  | .file _, .directory => isFalse nofun
  | .file bytes, .file other =>
    match ByteArray.instDecidableEq bytes other with
    | isTrue same => isTrue (congrArg Node.file same)
    | isFalse apart => isFalse fun same => apart (Node.file.inj same)

/-- A place in the tree, as the names that lead to it from the root. -/
abbrev Place := List String

/-- All places but the root, which is always a directory, and the place that relative paths start
from. -/
structure Tree where
  nodes : List (Place × Node)
  here : Place

namespace Tree

def find? (tree : Tree) : Place → Option Node
  | [] => some .directory
  | place => tree.nodes.lookup place

def insert (tree : Tree) (place : Place) (node : Node) : Tree :=
  { tree with nodes := (place, node) :: tree.nodes.filter fun entry => entry.1 ≠ place }

def erase (tree : Tree) (place : Place) : Tree :=
  { tree with nodes := tree.nodes.filter fun entry => entry.1 ≠ place }

def isDirectoryAt (tree : Tree) (place : Place) : Bool :=
  match tree.find? place with
  | some .directory => true
  | _ => false

/-- One name down, or up for two dots. -/
def stepTo (place : Place) (name : String) : Place :=
  if name = ".." then place.dropLast else place ++ [name]

/-- The most bytes in a name, and the most in a path. -/
def longestName : Nat := 255
def longestPath : Nat := 4095

/-- Follows names from a place; all but the last have to lead to directories. -/
def walk (tree : Tree) (place : Place) : List String → Except Fault Place
  | [] => .ok place
  | name :: rest =>
    match tree.find? place with
    | none => .error .noEntry
    | some (.file _) => .error .notDirectory
    | some .directory =>
      if longestName < name.utf8ByteSize then .error .nameTooLong
      else tree.walk (stepTo place name) rest

def locate (tree : Tree) (path : Path) : Except Fault Place :=
  if path.text.toList.contains '\x00' then .error .nullInPath
  else if longestPath < path.text.utf8ByteSize then .error .nameTooLong
  else tree.walk (if path.isAbsolute then [] else tree.here) path.parts

def refuse {α : Type} (path : Path) (fault : Fault) : Except Refusal α :=
  .error ⟨fault, some path.text⟩

def stat (tree : Tree) (path : Path) : Except Fault Node :=
  match tree.locate path with
  | .error fault => .error fault
  | .ok place =>
    match tree.find? place with
    | none => .error .noEntry
    | some node => .ok node

/-- Whether something stands at a path. Nothing does where a name leads nowhere; only a path that
is too long cannot be looked up. -/
def exists? (tree : Tree) (path : Path) : Except Refusal Bool :=
  match tree.stat path with
  | .ok _ => .ok true
  | .error .nameTooLong => refuse path .nameTooLong
  | .error _ => .ok false

def isDirectory (tree : Tree) (path : Path) : Bool :=
  match tree.stat path with
  | .ok .directory => true
  | _ => false

def read (tree : Tree) (path : Path) : Except Refusal ByteArray :=
  match tree.stat path with
  | .error fault => refuse path fault
  | .ok .directory => refuse path .isDirectory
  | .ok (.file bytes) => .ok bytes

def writable (tree : Tree) (path : Path) : Except Refusal Place :=
  match tree.locate path with
  | .error fault => refuse path fault
  | .ok place =>
    if !tree.isDirectoryAt place.dropLast then refuse path .noEntry
    else if tree.isDirectoryAt place then refuse path .isDirectory
    else .ok place

def write (tree : Tree) (path : Path) (bytes : ByteArray) : Except Refusal Tree :=
  (tree.writable path).map fun place => tree.insert place (.file bytes)

/-- Removes a file; that nothing is there is no reason for refusal. -/
def remove (tree : Tree) (path : Path) : Except Refusal Tree :=
  match tree.locate path with
  | .error .noEntry => .ok tree
  | .error fault => refuse path fault
  | .ok place =>
    if tree.isDirectoryAt place then refuse path .isDirectory else .ok (tree.erase place)

/-- Moves whatever stands at one place, with everything below it, to another. -/
def moveFrom (source target : Place) (entry : Place × Node) : Place × Node :=
  if source.isPrefixOf entry.1 then (target ++ entry.1.drop source.length, entry.2) else entry

/-- Renames within the tree; a file at the target gives way. -/
def rename (tree : Tree) (source target : Path) : Except Refusal Tree :=
  match tree.locate source, tree.locate target with
  | .error fault, _ => refuse source fault
  | _, .error fault => refuse source fault
  | .ok old, .ok new =>
    if (tree.find? old).isNone then refuse source .noEntry
    else .ok { tree with nodes := (tree.erase new).nodes.map (moveFrom old new) }

/-- Makes one directory; one that is there already is as good. -/
def makeOne (tree : Tree) (path : Path) : Except Refusal Tree :=
  match tree.locate path with
  | .error fault => refuse path fault
  | .ok place =>
    match tree.find? place with
    | some .directory => .ok tree
    | some (.file _) => refuse path .exists
    | none =>
      if tree.isDirectoryAt place.dropLast then .ok (tree.insert place .directory)
      else refuse path .noEntry

/-- Makes one directory, and gives the tree back as it was when that is refused. -/
def tryOne (tree : Tree) (path : Path) : Except Refusal Unit × Tree :=
  match tree.makeOne path with
  | .error refusal => (.error refusal, tree)
  | .ok tree => (.ok (), tree)

/-- Makes a directory and whatever is missing above it; names stand in reverse. What was made
above stays when the directory itself is refused. -/
def makeAll (tree : Tree) (root : String) : List String → Except Refusal Unit × Tree
  | [] => tree.tryOne ⟨root, []⟩
  | name :: above =>
    let path : Path := ⟨root, (name :: above).reverse⟩
    match tree.tryOne path with
    | (.ok (), tree) => (.ok (), tree)
    | (.error refusal, tree) =>
      if refusal.fault = .noEntry then
        match tree.makeAll root above with
        | (.error refusal, tree) => (.error refusal, tree)
        | (.ok (), tree) => tree.tryOne path
      else (.error refusal, tree)

def makeDirectories (tree : Tree) (path : Path) : Except Refusal Unit × Tree :=
  tree.makeAll path.root path.parts.reverse

def names (tree : Tree) (path : Path) : List String :=
  match tree.locate path with
  | .error _ => []
  | .ok place =>
    (tree.nodes.filterMap fun entry =>
      if entry.1 ≠ [] ∧ entry.1.dropLast = place then entry.1.getLast? else none).mergeSort
        (fun a b => decide (a ≤ b))

def directoriesBelow (tree : Tree) (place : Place) : List String :=
  (tree.nodes.filterMap fun entry =>
    match entry.2 with
    | .directory =>
      if place.isPrefixOf entry.1 ∧ entry.1 ≠ place then
        some (String.intercalate "/" (entry.1.drop place.length))
      else none
    | .file _ => none).mergeSort (fun a b => decide (a ≤ b))

end Tree

end Elevation.Disk
