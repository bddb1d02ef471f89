import Filtergraph.Data.Json
import Filtergraph.Failure
import Filtergraph.Schema.Check

/-!
# Descriptions of files

The probing tool describes a file as a table with a list of streams and a table for the
container.  The first video stream tells the dimensions and the duration; a duration that it
lacks is taken from the container.
-/

namespace Filtergraph
namespace Description

/-- The member of a value that ought to be a table. -/
def get? (name : String) : Value -> Except Failure (Option Value)
  | .table members => .ok (Value.member? name members)
  | value => .error (.wrongAttribute (.absent value.typeName "get"))

/-- The items of a value that ought to be a list. -/
def items (value : Value) : Except Failure (List Value) :=
  match value.items? with
  | some items => .ok items
  | none => .error (.wrongType (.items value.typeName))

/-- A stream carries video. -/
def isVideo (stream : Value) : Except Failure Bool := do
  match ← get? "codec_type" stream with
  | some (.text kind) => return kind == "video"
  | _ => return false

/-- The first video stream, or an empty table.  The streams behind it are not looked at. -/
def firstVideo : List Value -> Except Failure Value
  | [] => .ok (.table [])
  | stream :: rest => do
    if ← isVideo stream then return stream else firstVideo rest

/-- A duration in seconds.  What does not count as true is no duration. -/
def seconds : Value -> Except Failure Value
  | .text s =>
    if s = "" then .ok .null
    else
      match Double.readLenient? s with
      | some x => .ok (.double x)
      | none => .error (.wrongValue (.double s))
  | .int n =>
    if n = 0 then .ok .null
    else
      match Double.ofInt? n with
      | some x => .ok (.double x)
      | none => .error (.outOfRange .double)
  | .double x => .ok (if x.isZero then .null else .double x)
  | .bool b => .ok (if b then .double (.ofRatio false 1 1) else .null)
  | value => if value.isTrue then .error (.wrongType (.number value.typeName)) else .ok .null

/-- The duration of a stream, or else of the container. -/
def duration (description stream : Value) : Except Failure Value := do
  let own := (← get? "duration" stream).getD .null
  if own.isTrue then return own
  else
    let container := (← get? "format" description).getD (.table [])
    return (← get? "duration" container).getD .null

/-- The members that a description tells about a file. -/
def members (description : Value) : Except Failure Schema.Members := do
  let streams ← items ((← get? "streams" description).getD (.list []))
  let stream ← firstVideo streams
  let length ← duration description stream
  let width ← get? "width" stream
  let height ← get? "height" stream
  return [("width", width.getD .null), ("height", height.getD .null),
    ("duration", ← seconds length)]

/-- What is known about a file of which the given members are. -/
def assetOf (path : Value) (members : Schema.Members) : Except Failure Asset :=
  ((Schema.checkAsset (.table (("path", path) :: members))).toExcept .asset).mapError .rejected

/-- What a description tells about a file. -/
def toAsset (path description : Value) : Except Failure Asset := do
  assetOf path (← members description)

end Description
end Filtergraph
