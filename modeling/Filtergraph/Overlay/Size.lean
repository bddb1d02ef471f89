import Filtergraph.Data.Numeral

/-!
# Scaling an overlay

An overlay is scaled only if both of its sides are asked for.  A side that cannot be written scales
nothing: there is no scaling at all then.
-/

namespace Filtergraph

/-- The size that is asked for. -/
structure Size where
  /-- The width in pixels. -/
  width : Option Int := none
  /-- The height in pixels. -/
  height : Option Int := none
  deriving DecidableEq, Repr

/-- How an overlay is scaled. -/
inductive Scaling where
  | own
  | sides (width height : Numeral)
  deriving DecidableEq, Repr

/-- The clause that scales; a picture of its own size needs none. -/
def Scaling.clause : Scaling -> String
  | .own => ""
  | .sides width height => ",scale=" ++ width.text ++ ":" ++ height.text

namespace Size

/-- Both sides, if both are given. -/
def sides? (size : Size) : Option (Int × Int) :=
  match size.width, size.height with
  | some width, some height => some (width, height)
  | _, _ => none

/-- Both sides are given. -/
def isComplete (size : Size) : Bool :=
  size.sides?.isSome

/-- The scaling of a setting that may be absent, if its sides can be written. -/
def scaling? (size : Option Size) : Option Scaling :=
  match size.bind sides? with
  | some (width, height) => do return .sides (← Numeral.ofInt? width) (← Numeral.ofInt? height)
  | none => some .own

end Size
end Filtergraph
