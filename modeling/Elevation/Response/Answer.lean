import Elevation.Json.Printer
import Elevation.Response.Tiles

/-!
All answers as one type, and the two forms in which an answer is given.

An answer is given as text where that is asked for and the answer has a text; otherwise it is
given as structured data. Each kind of answer has a name under which its members can be read.
-/
namespace Elevation.Response

open Fields

inductive Answer where
  | failed (report : ErrorReport)
  | partition (info : Partition)
  | partitions (answer : Partitions)
  | coverage (answer : CoverageCheck)
  | status (answer : Status)
  | capabilities (answer : Capabilities)
  | pointElevation (answer : PointElevation)
  | pointInfo (info : PointInfo)
  | multiPoint (answer : MultiPoint)
  | tileDescription (answer : TileDescription)
  | tileArtifact (answer : TileArtifact)

namespace Answer

def ofMembers? [Coercion] (kind : String) (members : Members) : Option (Checked Answer) :=
  match kind with
  | "ErrorResponse" => some ((ErrorReport.ofMembers members).map failed)
  | "PartitionInfo" => some ((Partition.ofMembers members).map partition)
  | "PartitionsResponse" => some ((Partitions.ofMembers members).map partitions)
  | "CoverageCheckResponse" => some ((CoverageCheck.ofMembers members).map coverage)
  | "StatusResponse" => some ((Status.ofMembers members).map status)
  | "CapabilitiesResponse" => some ((Capabilities.ofMembers members).map capabilities)
  | "PointElevationResponse" => some ((PointElevation.ofMembers members).map pointElevation)
  | "PointInfo" => some ((PointInfo.ofMembers members).map pointInfo)
  | "MultiPointResponse" => some ((MultiPoint.ofMembers members).map multiPoint)
  | "TileInfoResponse" => some ((TileDescription.ofMembers members).map tileDescription)
  | "TileArtifactResponse" => some ((TileArtifact.ofMembers members).map tileArtifact)
  | _ => none

def toJson : Answer → Json
  | failed report => report.toJson
  | partition info => info.toJson
  | partitions answer => answer.toJson
  | coverage answer => answer.toJson
  | status answer => answer.toJson
  | capabilities answer => answer.toJson
  | pointElevation answer => answer.toJson
  | pointInfo info => info.toJson
  | multiPoint answer => answer.toJson
  | tileDescription answer => answer.toJson
  | tileArtifact answer => answer.toJson

/-- The text of an answer; none for the kind that is only given as structured data. -/
def toText? : Answer → Option (Except Failure String)
  | failed report => some (.ok report.toText)
  | partition info => some (.ok info.toText)
  | partitions answer => some (.ok answer.toText)
  | coverage answer => some (.ok answer.toText)
  | status answer => some (.ok answer.toText)
  | capabilities answer => some (.ok answer.toText)
  | pointElevation answer => some (.ok answer.toText)
  | pointInfo _ => none
  | multiPoint answer => some answer.toText
  | tileDescription answer => some answer.toText
  | tileArtifact answer => some answer.toText

/-- The mode in which answers are given as text; every other one means structured data. -/
def textMode : String := "text"

def usualMode : String := "json"

def format (answer : Answer) (mode : String) : Except Failure String :=
  if mode = textMode then answer.toText?.getD (.ok answer.toJson.document)
  else .ok answer.toJson.document

end Answer

def ErrorReport.format (report : ErrorReport) (mode : String) : String :=
  if mode = Answer.textMode then report.toText else report.toJson.document

end Elevation.Response
