import Filtergraph.Filter.Overlay
import Filtergraph.World.Pipeline

/-!
# The demonstration

The demonstration lays a picture over the lower right corner of a video for three seconds.  It
shows the command before it runs it.
-/

namespace Filtergraph
namespace Demo

/-- How the demonstration is called. -/
def usage : String := "Usage: basic_usage.py INPUT.mp4 LOGO.png [OUTPUT.mp4]"

/-- The output unless another one is given. -/
def defaultOutput : String := "watermarked.mp4"

/-- Ten pixels from the lower and the right edge. -/
def placement : Placement where
  position := .relative
  bottom := some (.int 10)
  right := some (.int 10)

/-- From the first second to the fourth. -/
def window : Window where
  start := some (.int 1)
  finish := some (.int 4)

/-- The settings of the watermark for a picture. -/
def settings (picture : String) : WatermarkSettings where
  path := .text picture
  coordinates := .record (.placement placement)
  scale := .table [("w", .int 64), ("h", .int 64)]
  time := .record (.window window)

/-- The format of the output. -/
def format : Format :=
  .checked { profile := .h264, quality := some 20, preset := some defaultPreset }

/-- A failure that the demonstration explains instead of passing it on. -/
def isExplained : Failure -> Bool
  | .noPicture _ | .badSetting _ _ | .toolTooOld .. => true
  | _ => false

/-- Shows and runs the command for a watermark. -/
def apply (watermark : Watermark) (input output : String) : Action Unit := do
  let world ← get
  let filter := world.filters.length
  set { world with filters := world.filters ++ [watermark.toFilter (.int 0)] }
  let pipeline ← Pipeline.create none
  Pipeline.add pipeline filter
  let source : Source := .single ⟨input⟩
  let command ← Pipeline.dryRun pipeline source (.text output) (some format)
  Action.say ("Command: " ++ command)
  let _ ← Pipeline.run pipeline source (.text output) (some format) false
  Action.say "✅ Watermark applied!"
  Action.say ("Output saved to: " ++ output)

/-- The demonstration, called with arguments. -/
def perform : List String -> Action Unit
  | input :: picture :: rest => do
    match Watermark.create (← get).files (settings picture) with
    | .ok watermark => apply watermark input (rest.head?.getD defaultOutput)
    | .error failure =>
      if isExplained failure then Action.say ("Cannot use watermark: " ++ failure.message)
      else throw failure
  | _ => Action.say usage

end Demo
end Filtergraph
