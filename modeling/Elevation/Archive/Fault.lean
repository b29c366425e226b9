import Elevation.Disk.Fault
import Elevation.Text.Utf8

/-!
Why an archive or one of its entries cannot be read.

The faults fall into classes that callers tell apart: damage to the archive's structure, damage to
compressed data of several kinds, names that are not text, data that ends too early, requests the
reader does not support, places outside the archive, and refusals of the file system.
-/
namespace Elevation.Archive

inductive Fault where
  | notArchive
  | badDirectoryOffset
  | truncatedDirectory
  | badDirectoryMark
  | badHeaderMark
  | truncatedHeader
  | severalDisks
  | corruptExtra (tag size : Nat)
  | missingWideField (field : String)
  | nameDiffers (name : String) (raw : List UInt8)
  | overlapped (name : String)
  | checksum (name : String)
  | badData (reason : String)
  /-- Damage to data that were sorted block by block. -/
  | badBlocks (reason : String)
  /-- Damage to data that were packed decision by decision. -/
  | badDecisions (reason : String)
  | unreadableName (fault : Text.Utf8Fault)
  | endOfData
  | version (tenths : Nat)
  | patched
  | strongEncryption
  | unsupportedMethod
  | encrypted (shown : String)
  /-- An entry that would start before the archive does. -/
  | beforeStart (offset : Int)
  /-- A place in a file that does not fit into 64 bits. -/
  | placeTooFar
  /-- A place in memory that does not fit into 64 bits. -/
  | offsetTooFar
  | refused (refusal : Disk.Refusal)
  deriving DecidableEq, Repr

inductive FaultClass where
  | damage
  | data
  | wrongText
  | endOfData
  | unsupported
  | password
  | place
  | size
  | decisions
  | file
  deriving DecidableEq, Repr

def Fault.family : Fault → FaultClass
  | .notArchive | .badDirectoryOffset | .truncatedDirectory | .badDirectoryMark | .badHeaderMark
  | .truncatedHeader | .severalDisks | .corruptExtra .. | .missingWideField _ | .nameDiffers ..
  | .overlapped _ | .checksum _ => .damage
  | .badData _ => .data
  | .unreadableName _ => .wrongText
  | .endOfData => .endOfData
  | .version _ | .patched | .strongEncryption | .unsupportedMethod => .unsupported
  | .encrypted _ => .password
  | .beforeStart _ | .placeTooFar => .place
  | .offsetTooFar => .size
  | .badDecisions _ => .decisions
  | .refused _ | .badBlocks _ => .file

def Fault.kind (fault : Fault) : String :=
  match fault with
  | .refused refusal => refusal.fault.kind
  | fault =>
    match fault.family with
    | .damage => "BadZipFile"
    | .data => "error"
    | .wrongText => "UnicodeDecodeError"
    | .endOfData => "EOFError"
    | .unsupported => "NotImplementedError"
    | .password => "RuntimeError"
    | .place => "ValueError"
    | .size => "OverflowError"
    | .decisions => "LZMAError"
    | .file => "OSError"

def Fault.message : Fault → String
  | .notArchive => "File is not a zip file"
  | .badDirectoryOffset => "Bad offset for central directory"
  | .truncatedDirectory => "Truncated central directory"
  | .badDirectoryMark => "Bad magic number for central directory"
  | .badHeaderMark => "Bad magic number for file header"
  | .truncatedHeader => "Truncated file header"
  | .severalDisks => "zipfiles that span multiple disks are not supported"
  | .corruptExtra tag size =>
    "Corrupt extra field " ++ String.ofList (Text.hexDigits 4 tag)
      ++ " (size=" ++ toString size ++ ")"
  | .missingWideField field => "Corrupt zip64 extra field. " ++ field ++ " not found."
  | .nameDiffers name raw =>
    "File name in directory " ++ Text.quoted name ++ " and header " ++ Text.quotedBytes raw
      ++ " differ."
  | .overlapped name => "Overlapped entries: " ++ Text.quoted name ++ " (possible zip bomb)"
  | .checksum name => "Bad CRC-32 for file " ++ Text.quoted name
  | .badData reason => "Error -3 while decompressing data: " ++ reason
  | .badBlocks reason | .badDecisions reason => reason
  | .unreadableName fault => fault.message
  | .endOfData => ""
  | .version tenths =>
    "zip file version " ++ toString (tenths / 10) ++ "." ++ toString (tenths % 10)
  | .patched => "compressed patched data (flag bit 5)"
  | .strongEncryption => "strong encryption (flag bit 6)"
  | .unsupportedMethod => "That compression method is not supported"
  | .encrypted shown => "File " ++ shown ++ " is encrypted, password required for extraction"
  | .beforeStart offset => "negative seek value " ++ toString offset
  | .placeTooFar => "cannot fit 'int' into an offset-sized integer"
  | .offsetTooFar => "Python int too large to convert to C ssize_t"
  | .refused refusal => refusal.message

end Elevation.Archive
