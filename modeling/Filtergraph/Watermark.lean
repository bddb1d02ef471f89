import Filtergraph.Failure
import Filtergraph.Schema.Check

/-!
# Watermarks

A watermark lays a picture over a video.  Its settings are checked when it is made: first that
the picture is an existing file, then the coordinates, the scale and the time, each against its
schema.  The first setting that does not fit is the one reported.
-/

namespace Filtergraph

/-- A watermark whose settings have been checked. -/
structure Watermark where
  /-- The file of the picture. -/
  path : String
  /-- Where it is placed. -/
  placement : Placement := {}
  /-- The size that is asked for. -/
  size : Option Size := none
  /-- When it is shown. -/
  window : Window := {}
  deriving DecidableEq, Repr

/-- The unchecked settings of a watermark; null stands for an absent setting. -/
structure WatermarkSettings where
  /-- The file of the picture. -/
  path : Value
  /-- Where it is placed. -/
  coordinates : Value := .null
  /-- The size that is asked for. -/
  scale : Value := .null
  /-- When it is shown. -/
  time : Value := .null
  deriving Repr

namespace WatermarkSettings

/-- The greatest number of an open file. -/
def handleLimit : Int := (Nat.pow 2 31 : Nat) - 1

/-- A number names an open file, and none is open. -/
def checkHandle (path : Value) (n : Int) : Except Failure String :=
  if handleLimit < n then .error (.outOfRange .handleAbove)
  else if n < -handleLimit - 1 then .error (.outOfRange .handleBelow)
  else do throw (.noPicture (← Word.ofValue path))

/-- The path of the picture, if it leads to a file. -/
def checkPath (files : FileTree) : Value -> Except Failure String
  | .text s => if files.isFile s then .ok s else .error (.noPicture (.text s))
  | .int n => checkHandle (.int n) n
  | .bool b => checkHandle (.bool b) (if b then 1 else 0)
  | value => .error (.wrongType (.path value.typeName))

/-- Checks a setting unless it is absent. -/
def checkSetting (setting : Setting) (schema : Schema) (check : Value -> Verdict α) :
    Value -> Except Failure (Option α)
  | .null => .ok none
  | value => (((check value).map some).toExcept schema).mapError (.badSetting setting)

end WatermarkSettings

/-- The clause that enables an overlay while a predicate holds, whatever the predicate is.  One
that does not count as true needs no clause. -/
def enablingClause (predicate : Value) : Except Failure String :=
  if predicate.isTrue then do return Gate.clause (← Failure.written predicate.plain?) else .ok ""

namespace Watermark

/-- Makes a watermark of settings. -/
def create (files : FileTree) (settings : WatermarkSettings) : Except Failure Watermark := do
  let path ← WatermarkSettings.checkPath files settings.path
  let placement ← WatermarkSettings.checkSetting .coordinates .placement Schema.checkPlacement
    settings.coordinates
  let size ← WatermarkSettings.checkSetting .scale .size Schema.checkSize settings.scale
  let window ← WatermarkSettings.checkSetting .time .window Schema.checkWindow settings.time
  return { path, placement := placement.getD {}, size, window := window.getD {} }

/-- What takes effect of the settings, if that can be written. -/
def graph? (watermark : Watermark) : Option Graph :=
  Graph.ofSettings? watermark.path watermark.placement watermark.size watermark.window

/-- The arguments of the watermark, if its settings can be written. -/
def fragment? (watermark : Watermark) : Option (List String) := do
  return ["-vf", (← watermark.graph?).render]

end Watermark
end Filtergraph
