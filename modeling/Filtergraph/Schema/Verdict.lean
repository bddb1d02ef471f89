import Filtergraph.Schema.Fault

/-!
# Verdicts

A verdict is an accepted value or a list of faults.  Verdicts on several parts are joined so that
the faults of all parts are kept, in order.
-/

namespace Filtergraph

/-- The outcome of a check. -/
inductive Verdict (α : Type) where
  | accepted (value : α)
  | rejected (faults : List Fault)
  deriving Repr

namespace Verdict

/-- Rejects a document as a whole. -/
def fault (cause : Cause) : Verdict α :=
  .rejected [⟨[], cause⟩]

/-- Changes what is accepted. -/
def map (f : α -> β) : Verdict α -> Verdict β
  | .accepted value => .accepted (f value)
  | .rejected faults => .rejected faults

/-- Joins verdicts on two parts and keeps the faults of both. -/
def ap : Verdict (α -> β) -> Verdict α -> Verdict β
  | .accepted f, .accepted value => .accepted (f value)
  | .accepted _, .rejected faults => .rejected faults
  | .rejected faults, .accepted _ => .rejected faults
  | .rejected faults, .rejected more => .rejected (faults ++ more)

instance : Applicative Verdict where
  pure := .accepted
  seq f v := f.ap (v ())

/-- Puts a step in front of the paths of all faults. -/
def under (step : PathStep) : Verdict α -> Verdict α
  | .accepted value => .accepted value
  | .rejected faults =>
    .rejected (faults.map fun fault => { fault with path := step :: fault.path })

/-- Joins the verdicts on the items of a list, numbered from `start`. -/
def list (check : α -> Verdict β) (start : Nat) : List α -> Verdict (List β)
  | [] => .accepted []
  | item :: rest =>
    ((((check item).under (.index start)).map List.cons)).ap (list check (start + 1) rest)

/-- The accepted value, or the rejection by a schema. -/
def toExcept (schema : Schema) : Verdict α -> Except Rejection α
  | .accepted value => .ok value
  | .rejected faults => .error ⟨schema, faults⟩

end Verdict
end Filtergraph
