import Elevation.Text.Quoted

/-!
What the file system answers when it refuses an operation.
-/
namespace Elevation.Disk

inductive Fault where
  | noEntry
  | exists
  | notDirectory
  | isDirectory
  | invalidArgument
  | nameTooLong
  /-- A path that no file system is asked for, since it holds the null character. -/
  | nullInPath
  deriving DecidableEq, Repr

def Fault.code : Fault → Nat
  | .noEntry => 2
  | .exists => 17
  | .notDirectory => 20
  | .isDirectory => 21
  | .invalidArgument | .nullInPath => 22
  | .nameTooLong => 36

def Fault.text : Fault → String
  | .noEntry => "No such file or directory"
  | .exists => "File exists"
  | .notDirectory => "Not a directory"
  | .isDirectory => "Is a directory"
  | .invalidArgument => "Invalid argument"
  | .nameTooLong => "File name too long"
  | .nullInPath => "embedded null byte"

def Fault.kind : Fault → String
  | .noEntry => "FileNotFoundError"
  | .exists => "FileExistsError"
  | .notDirectory => "NotADirectoryError"
  | .isDirectory => "IsADirectoryError"
  | .invalidArgument | .nameTooLong => "OSError"
  | .nullInPath => "ValueError"

/-- A refused operation, with the path it was asked for when it was asked by path. -/
structure Refusal where
  fault : Fault
  path : Option String
  deriving DecidableEq, Repr

/-- Whether the file system itself refused, and not the path on its way there. -/
def Refusal.isNumbered (refusal : Refusal) : Bool := refusal.fault ≠ .nullInPath

def Refusal.message (refusal : Refusal) : String :=
  if refusal.isNumbered then
    let head := "[Errno " ++ toString refusal.fault.code ++ "] " ++ refusal.fault.text
    match refusal.path with
    | none => head
    | some path => head ++ ": " ++ Text.quoted path
  else refusal.fault.text

end Elevation.Disk
