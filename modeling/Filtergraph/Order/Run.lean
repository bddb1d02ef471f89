import Filtergraph.Order.Search

/-!
# Runs

A run is a list in order.  The longest run at the front of a list is found where items ascend, or
strictly descend and are turned round.  A run that is too short takes in further items, each of
which is placed behind the items it does not come before.
-/

namespace Filtergraph
namespace Order

/-- Takes further items while none comes before its predecessor.  The run is kept in reverse. -/
def ascend (before : α -> α -> Except ε Bool) (last : α) (run : List α) :
    List α -> Except ε (List α)
  | [] => .ok (last :: run).reverse
  | x :: rest => do
    if ← before x last then return (last :: run).reverse else ascend before x (last :: run) rest

/-- Takes further items while each comes before its predecessor.  The run ends up ascending. -/
def descend (before : α -> α -> Except ε Bool) (last : α) (run : List α) :
    List α -> Except ε (List α)
  | [] => .ok (last :: run)
  | x :: rest => do
    if ← before x last then descend before x (last :: run) rest else return last :: run

/-- The run at the front of a list, in ascending order. -/
def leadingRun (before : α -> α -> Except ε Bool) : List α -> Except ε (List α)
  | x :: y :: rest => do
    if ← before y x then descend before y [x] rest else ascend before y [x] rest
  | xs => .ok xs

/-- Places an item into a run, behind the items it does not come before. -/
def place (before : α -> α -> Except ε Bool) (run : List α) (x : α) : Except ε (List α) := do
  let position ← countByHalving .upper (fun y => return !(← before x y)) run
  return run.take position ++ x :: run.drop position

/-- The run at the front of a list, which takes in further items until it has so many. -/
def extendedRun (before : α -> α -> Except ε Bool) (least : Nat) (xs : List α) :
    Except ε (List α) := do
  let run ← leadingRun before xs
  ((xs.drop run.length).take (least - run.length)).foldlM (place before) run

/-- Halves a length until it is below 64, and adds one if a half was not exact. -/
def shortened (length : Nat) (inexact : Bool) : Nat :=
  if length < 64 then length + inexact.toNat
  else shortened (length / 2) (inexact || length % 2 == 1)
termination_by length

/-- How many items a run of a list of so many items has at least, unless the list ends. -/
def leastRunLength (length : Nat) : Nat :=
  shortened length false

end Order
end Filtergraph
