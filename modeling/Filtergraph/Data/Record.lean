import Filtergraph.Media.Source
import Filtergraph.Overlay.Graph

/-!
# Records

A record is one of the kinds of settings and results that documents are checked against.  Each
kind has a schema with a title and the names of its fields in declaration order.
-/

namespace Filtergraph

/-- The kinds of records. -/
inductive Schema where
  | placement
  | size
  | window
  | encoding
  | video
  | media
  | asset
  | result
  deriving DecidableEq, Repr

namespace Schema

/-- All kinds. -/
def all : List Schema :=
  [.placement, .size, .window, .encoding, .video, .media, .asset, .result]

/-- The title under which a kind is reported. -/
def title : Schema -> String
  | .placement => "CoordinateSpec"
  | .size => "ScaleSpec"
  | .window => "TimeWindow"
  | .encoding => "OutputFormat"
  | .video => "Video"
  | .media => "AdvancedMedia"
  | .asset => "MediaAsset"
  | .result => "InvocationResult"

/-- The kind of a title. -/
def ofTitle? (title : String) : Option Schema :=
  all.find? fun schema => schema.title == title

/-- The fields of a kind. -/
def fieldNames : Schema -> List String
  | .placement => ["position", "x", "y", "top", "bottom", "left", "right"]
  | .size => ["width", "height"]
  | .window => ["start", "end"]
  | .encoding => ["kind", "crf", "preset"]
  | .video => ["src"]
  | .media => ["inputs", "fmt"]
  | .asset => ["path", "width", "height", "duration"]
  | .result => ["returncode", "stdout", "stderr"]

/-- The records of a frozen kind cannot be changed. -/
def isFrozen : Schema -> Bool
  | .placement | .size | .window | .encoding | .asset => true
  | .video | .media | .result => false

end Schema

/-- A record of some kind. -/
inductive Record where
  | placement (placement : Placement)
  | size (size : Size)
  | window (window : Window)
  | encoding (encoding : Encoding)
  | video (video : Video)
  | media (media : Media)
  | asset (asset : Asset)
  | result (result : RunResult)
  deriving DecidableEq, Repr

/-- The kind of a record. -/
def Record.schema : Record -> Schema
  | .placement _ => .placement
  | .size _ => .size
  | .window _ => .window
  | .encoding _ => .encoding
  | .video _ => .video
  | .media _ => .media
  | .asset _ => .asset
  | .result _ => .result

/-- The name of a way of placing. -/
def Position.name : Position -> String
  | .absolute => "absolute"
  | .relative => "relative"

/-- The way of placing of a name. -/
def Position.ofName? (name : String) : Option Position :=
  [Position.absolute, .relative].find? fun position => position.name == name

end Filtergraph
