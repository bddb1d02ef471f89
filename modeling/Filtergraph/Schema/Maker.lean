import Filtergraph.Data.Draft

/-!
# Makers

A maker builds a record of one kind from named arguments.  It refuses names that it does not
take, and the record it builds is checked like any other document.
-/

namespace Filtergraph

/-- Refuses named arguments that a maker does not take. -/
def checkNames (maker : String) (known : List String) (arguments : Schema.Members) :
    Except Failure Unit :=
  match arguments.find? fun argument => !known.contains argument.1 with
  | some argument => .error (.wrongType (.keyword maker argument.1))
  | none => .ok ()

/-- How a placement is asked for. -/
inductive PlacementRequest where
  /-- By the maker of a way of placing and its named arguments. -/
  | ofPosition (position : Position) (arguments : Draft)
  /-- By a document that has to fit the schema. -/
  | checked (document : Draft)
  deriving Repr

namespace PlacementRequest

/-- The names of the arguments that the maker of a way of placing takes. -/
def makerNames : Position -> List String
  | .absolute => ["x", "y"]
  | .relative => ["top", "bottom", "left", "right"]

/-- A document as a placement. -/
def placementOf (document : Value) : Except Failure Placement :=
  ((Schema.checkPlacement document).toExcept .placement).mapError .rejected

/-- The placement that is asked for. -/
def resolve : PlacementRequest -> Except Failure Placement
  | .ofPosition position arguments => do
    let arguments ← arguments.members
    checkNames (Schema.placement.title ++ "." ++ position.name) (makerNames position) arguments
    placementOf (.table (("position", .text position.name) :: arguments))
  | .checked document => do placementOf (← document.resolve)

end PlacementRequest
end Filtergraph
