import Filtergraph.Media.Encoding
import Filtergraph.Number.Double

/-!
# Inputs and results

What filters are applied to, what is known about a file, and what a finished command leaves.
-/

namespace Filtergraph

/-- A single input. -/
structure Video where
  /-- Its path or address. -/
  source : String
  deriving DecidableEq, Repr

/-- Several inputs for one graph. -/
structure Media where
  /-- The paths or addresses of the inputs. -/
  inputs : List String
  /-- The encoding that goes with them. -/
  encoding : Option Encoding := none
  deriving DecidableEq, Repr

/-- Dimensions and duration of a file. -/
structure Asset where
  /-- Its path or address. -/
  path : String
  /-- The width in pixels. -/
  width : Option Int := none
  /-- The height in pixels. -/
  height : Option Int := none
  /-- The duration in seconds. -/
  duration : Option Double := none
  deriving DecidableEq, Repr

/-- Exit status and output of a finished command. -/
structure RunResult where
  /-- The exit status. -/
  status : Int
  /-- The standard output. -/
  output : String := ""
  /-- The standard error. -/
  errors : String := ""
  deriving DecidableEq, Repr

/-- A command succeeded when its exit status is zero. -/
def RunResult.succeeded (result : RunResult) : Bool :=
  result.status == 0

end Filtergraph
