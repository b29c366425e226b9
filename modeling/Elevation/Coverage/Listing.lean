import Elevation.Archive.Stream
import Elevation.Coverage.Index
import Elevation.Disk.Tree

/-!
The lists of codes that an index is built from.

A list is UTF-8 text, either plain or as the first entry of an archive. There is one list per
partition; all of them are fetched before the first one is looked at.
-/
namespace Elevation.Coverage.Listing

/-- Damage to an archive and wrong text make a list unreadable; other faults are reported as they
are. -/
def unreadable (partition : String) (fault : Archive.Fault) : Failure :=
  match fault.family with
  | .damage | .wrongText => .unreadableListing partition fault.message
  | .data | .endOfData | .unsupported | .password | .place | .size | .decisions | .file =>
    .archive fault

/-- Everything in the entry that the first name of an archive leads to. -/
def firstEntry (bytes : ByteArray) : Except Archive.Fault (Option ByteArray) :=
  match Archive.readDirectory .memory bytes with
  | .error fault => .error fault
  | .ok directory =>
    match directory.entries with
    | [] => .ok none
    | entry :: _ =>
      let (place, found) := (directory.find? entry.name).getD (0, entry)
      match Archive.openEntry .memory bytes directory place found (Text.quoted found.name) with
      | .error fault => .error fault
      | .ok stream => stream.readAll.map some

def contents (partition : String) (bytes : ByteArray) : Except Failure ByteArray :=
  match Archive.isArchive .memory bytes with
  | .error fault => .error (unreadable partition fault)
  | .ok false => .ok bytes
  | .ok true =>
    match firstEntry bytes with
    | .error fault => .error (unreadable partition fault)
    | .ok none => .error (.unreadableListing partition "empty archive")
    | .ok (some text) => .ok text

def linesOf (partition : String) (bytes : ByteArray) : Except Failure (List (List Char)) :=
  match contents partition bytes with
  | .error failure => .error failure
  | .ok text =>
    match Text.ofUtf8 text.data.toList with
    | .error fault => .error (.unreadableListing partition fault.message)
    | .ok text => .ok (Text.lines text)

def allLines : List (String × ByteArray) → Except Failure (List (String × List (List Char)))
  | [] => .ok []
  | (partition, bytes) :: rest =>
    match linesOf partition bytes with
    | .error failure => .error failure
    | .ok lines => (allLines rest).map ((partition, lines) :: ·)

def index (lists : List (String × ByteArray)) : Except Failure Index :=
  match allLines lists with
  | .error failure => .error failure
  | .ok entries => Index.ofEntries entries

/-! ### Where lists come from -/

def suffix : String := "_names.txt.zip"

def fileName (partition : String) : String := partition ++ suffix

def readFiles (read : String → Except Disk.Refusal ByteArray) :
    List String → Except Failure (List (String × ByteArray))
  | [] => .ok []
  | partition :: rest =>
    match read (fileName partition) with
    | .error refusal =>
      .error (if refusal.isNumbered then .missingListing partition else .refused refusal)
    | .ok bytes => (readFiles read rest).map ((partition, bytes) :: ·)

/-- The index of the lists in a directory, or of those that come with the program: `bundled` reads a
file that was installed with it. -/
def load (tree : Disk.Tree) (homes : Disk.Homes) (bundled : String → Except Disk.Refusal ByteArray)
    (directory : Option Disk.Path) : Except Failure Index :=
  match directory with
  | none => (readFiles bundled partitions).bind index
  | some directory =>
    match directory.expandHome homes with
    | .error fault => .error (.homeless fault)
    | .ok directory =>
      (readFiles (fun name => tree.read (directory.child name)) partitions).bind index

end Elevation.Coverage.Listing
