import Elevation.Command.Query
import Elevation.Standin.Basic
import Elevation.Standin.Web.Client

/-!
The query command as a program.

The files that a query may need are read first; then the query is answered from them. There is no
network, so an archive that is not there yet cannot be had.
-/
namespace Elevation.Command

open scoped Standin

def readEnvironment : List String → IO Settings.Environment
  | [] => pure []
  | name :: rest => do
    let value ← IO.getEnv name
    let others ← readEnvironment rest
    pure ((value.map fun text => (name, text)).toList ++ others)

/-- Puts a file into a tree, with the directories above it, if it can be read. -/
def readFile (tree : Disk.Tree) (path : Disk.Path) : IO Disk.Tree := do
  try
    let bytes ← IO.FS.readBinFile path.text
    let above : Disk.Path := ⟨path.root, path.parts.dropLast⟩
    match (tree.makeDirectories above).2.write path bytes with
    | .ok tree => pure tree
    | .error _ => pure tree
  catch _ => pure tree

def readFiles (tree : Disk.Tree) : List Disk.Path → IO Disk.Tree
  | [] => pure tree
  | path :: rest => do readFiles (← readFile tree path) rest

def Query.directoryOf (query : Query) (homes : Disk.Homes) (settings : Settings) : Disk.Path :=
  let directory := (query.directory.map Disk.Path.ofText).getD settings.directory
  (directory.expandHome homes).toOption.getD directory

def Query.files (query : Query) (homes : Disk.Homes) (environment : Settings.Environment) :
    List Disk.Path :=
  match Settings.ofEnvironment homes environment with
  | .error _ => []
  | .ok settings =>
    let directory := query.directoryOf homes settings
    let lists :=
      match settings.namesDirectory with
      | none => []
      | some names => Coverage.partitions.map (names.child ∘ Coverage.Listing.fileName)
    let archives :=
      match query.place.bind Place.name with
      | .error _ => []
      | .ok name => [directory.child (name ++ Provider.archiveSuffix)]
    settings.directory :: directory :: lists ++ archives

def Query.perform (query : Query) : IO UInt32 := do
  let environment ← readEnvironment ("HOME" :: Settings.variableNames)
  let homes := Settings.homesOf Standin.accounts environment
  let tree ← readFiles ⟨[], []⟩ (query.files homes environment)
  let world : World Standin.Wire := ⟨tree, homes, Standin.bundled, .start [], []⟩
  let downloader (timeout : Float) : Transfer.Downloader Standin.Wire :=
    Transfer.Client.fetch Standin.web Standin.retrier ⟨timeout, Transfer.defaultUserAgent⟩
  let (ending, world) := query.run environment downloader world
  for note in query.shownNotes world do
    IO.eprintln (note.level.text ++ ":" ++ note.source ++ ":" ++ note.text)
  match ending with
  | .ok ending =>
    IO.print ending.output
    pure ending.code.toUInt32
  | .error failure =>
    IO.eprintln (failure.kind ++ ": " ++ failure.message)
    pure 1

end Elevation.Command

open Elevation.Command

def main (arguments : List String) : IO UInt32 := do
  match Query.grammar.parse arguments with
  | .ready query => query.perform
  | .help =>
    IO.print Query.grammar.help
    pure 0
  | .misuse complaint =>
    IO.eprintln Query.grammar.usage
    IO.eprintln (Query.grammar.complaint complaint)
    pure misuseCode.toUInt32
