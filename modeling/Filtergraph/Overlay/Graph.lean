import Filtergraph.Overlay.Placement
import Filtergraph.Overlay.Size
import Filtergraph.Overlay.Window

/-!
# The overlay graph

An overlay graph reads a picture, scales it if asked to, and lays it over the frame while its
gate is open.  It holds only what takes effect, as it is written: settings that something else
overrides are gone, and of settings that cannot be written there is no graph.
-/

namespace Filtergraph

/-- What takes effect of the settings of an overlay. -/
structure Graph where
  /-- The file of the picture. -/
  picture : String
  /-- How the picture is scaled. -/
  scaling : Scaling
  /-- The horizontal coordinate. -/
  x : String
  /-- The vertical coordinate. -/
  y : String
  /-- When the overlay is shown. -/
  gate : Gate
  deriving DecidableEq, Repr

namespace Graph

/-- The graph of the settings of an overlay, if they can be written. -/
def ofSettings? (picture : String) (placement : Placement) (size : Option Size)
    (window : Window) : Option Graph := do
  let (x, y) ← placement.resolve?
  let gate ← window.gate?
  let scaling ← Size.scaling? size
  return { picture, scaling, x, y, gate }

/-- The graph in the filter language. -/
def render (graph : Graph) : String :=
  "movie=" ++ graph.picture ++ graph.scaling.clause ++
    " [watermark]; [in][watermark] overlay=" ++ graph.x ++ ":" ++ graph.y ++
    Gate.clause graph.gate.predicate ++ " [out]"

end Graph
end Filtergraph
