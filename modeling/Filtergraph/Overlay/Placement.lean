import Filtergraph.Overlay.Operand

/-!
# Placing an overlay

The upper left corner of an overlay is placed by absolute coordinates, or by its distances from
the edges of the frame.  Distances from the far edges become differences in the variables for the
sizes of frame and overlay; nothing is evaluated here.  A coordinate that cannot be written is no
expression.
-/

namespace Filtergraph

/-- How an overlay is placed. -/
inductive Position where
  | absolute
  | relative
  deriving DecidableEq, Repr

/-- Where an overlay is placed on the frame. -/
structure Placement where
  /-- Which of the settings below count. -/
  position : Position := .absolute
  /-- The horizontal coordinate. -/
  x : Option Operand := none
  /-- The vertical coordinate. -/
  y : Option Operand := none
  /-- The distance from the upper edge. -/
  top : Option Operand := none
  /-- The distance from the lower edge. -/
  bottom : Option Operand := none
  /-- The distance from the left edge. -/
  left : Option Operand := none
  /-- The distance from the right edge. -/
  right : Option Operand := none
  deriving DecidableEq, Repr

/-- The variables for the extents of frame and overlay along one axis. -/
structure Axis where
  /-- The extent of the frame. -/
  frame : String
  /-- The extent of the overlay. -/
  overlay : String
  deriving DecidableEq, Repr

namespace Axis

/-- From left to right. -/
def horizontal : Axis := ⟨"main_w", "overlay_w"⟩

/-- From top to bottom. -/
def vertical : Axis := ⟨"main_h", "overlay_h"⟩

/-- The coordinate of an overlay that lies at a distance from the far edge. -/
def fromFar (axis : Axis) (distance : String) : String :=
  axis.frame ++ " - " ++ distance ++ " - " ++ axis.overlay

end Axis

/-- What places an overlay along one axis. -/
inductive Offset where
  | origin
  | fromNear (distance : Operand)
  | fromFar (distance : Operand)
  deriving DecidableEq, Repr

namespace Offset

/-- The coordinate as an expression. -/
def render? (axis : Axis) : Offset -> Option String
  | .origin => some "0"
  | .fromNear distance => distance.render?
  | .fromFar distance => distance.render?.map axis.fromFar

/-- A coordinate that is given, or the origin. -/
def ofCoordinate (coordinate : Option Operand) : Offset :=
  match given? coordinate with
  | some distance => .fromNear distance
  | none => .origin

/-- The distance from the near edge if it is given, else the one from the far edge, else the
origin. -/
def ofDistances (near far : Option Operand) : Offset :=
  match given? near, given? far with
  | some distance, _ => .fromNear distance
  | none, some distance => .fromFar distance
  | none, none => .origin

end Offset

namespace Placement

/-- What places the overlay from left to right. -/
def horizontal (placement : Placement) : Offset :=
  match placement.position with
  | .absolute => .ofCoordinate placement.x
  | .relative => .ofDistances placement.left placement.right

/-- What places the overlay from top to bottom. -/
def vertical (placement : Placement) : Offset :=
  match placement.position with
  | .absolute => .ofCoordinate placement.y
  | .relative => .ofDistances placement.top placement.bottom

/-- The two coordinates as expressions, the horizontal one first. -/
def resolve? (placement : Placement) : Option (String × String) := do
  return (← placement.horizontal.render? .horizontal, ← placement.vertical.render? .vertical)

end Placement
end Filtergraph
