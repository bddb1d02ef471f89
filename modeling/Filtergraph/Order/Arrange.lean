import Filtergraph.Order.Merge
import Filtergraph.Order.Run

/-!
# Ordering by comparisons that may fail

A list is split into runs, which are merged with their neighbours until one is left.  Which
neighbours are merged first depends on how the middles of the runs lie in the halvings of the
list.  Equal items keep their order, and the first comparison that fails is the failure of the
whole.  Where comparisons contradict each other the result depends on the order in which they are
made, which is fixed here.
-/

namespace Filtergraph
namespace Order

/-- A run that waits to be merged. -/
structure Pending (α : Type) where
  /-- The run. -/
  run : List α
  /-- How often the list is halved until the middles of the run and of the next one part. -/
  depth : Nat := 0
  deriving Repr

/-- The runs of the part of a list that has been split already. -/
structure Runs (α : Type) where
  /-- The runs, the last one first. -/
  pending : List (Pending α) := []
  /-- How often a run has to win in a row before items are moved in bulk. -/
  threshold : Nat := bulk
  deriving Repr

namespace Runs

/-- How often a list of so many items is halved until the middles of two adjacent runs part.  The
first run starts at a position, and the lengths of both are given. -/
def depthBetween (length start first second : Nat) : Nat :=
  let middle := 2 * start + first
  let next := middle + first + second
  let parts (halvings : Nat) : Bool :=
    middle * Nat.pow 2 halvings / length != next * Nat.pow 2 halvings / length
  ((List.range length).find? parts).getD length

/-- The position at which the last run starts. -/
def start (below : List (Pending α)) : Nat :=
  below.foldl (fun start entry => start + entry.run.length) 0

/-- Merges the last run with those before it whose middles part deeper than given. -/
def collapse (before : α -> α -> Except ε Bool) (depth threshold : Nat) :
    List (Pending α) -> Except ε (Runs α)
  | last :: previous :: below =>
    if depth < previous.depth then do
      let (run, threshold) ← merge before threshold previous.run last.run
      collapse before depth threshold (⟨run, previous.depth⟩ :: below)
    else .ok ⟨last :: previous :: below, threshold⟩
  | pending => .ok ⟨pending, threshold⟩
termination_by pending => pending.length

/-- Adds the next run of a list of so many items. -/
def push (before : α -> α -> Except ε Bool) (length : Nat) (runs : Runs α) (run : List α) :
    Except ε (Runs α) :=
  match runs.pending with
  | [] => .ok { runs with pending := [⟨run, 0⟩] }
  | last :: below => do
    let depth := depthBetween length (start below) last.run.length run.length
    let collapsed ← collapse before depth runs.threshold runs.pending
    match collapsed.pending with
    | [] => return { collapsed with pending := [⟨run, 0⟩] }
    | last :: below =>
      return { collapsed with pending := ⟨run, 0⟩ :: { last with depth } :: below }

/-- Merges all runs, the last one with its neighbour unless the neighbours of that are shorter. -/
def finish (before : α -> α -> Except ε Bool) (threshold : Nat) :
    List (Pending α) -> Except ε (List α)
  | [] => .ok []
  | [last] => .ok last.run
  | [last, previous] => do
    let (run, _) ← merge before threshold previous.run last.run
    return run
  | last :: previous :: first :: below =>
    if first.run.length < last.run.length then do
      let (run, threshold) ← merge before threshold first.run previous.run
      finish before threshold (last :: ⟨run, first.depth⟩ :: below)
    else do
      let (run, threshold) ← merge before threshold previous.run last.run
      finish before threshold (⟨run, previous.depth⟩ :: first :: below)
termination_by pending => pending.length

/-- Splits what is left of a list of so many items into runs of a least length. -/
def split (before : α -> α -> Except ε Bool) (length least : Nat) (runs : Runs α) :
    List α -> Except ε (Runs α)
  | [] => .ok runs
  | x :: rest => do
    let run ← extendedRun before least (x :: rest)
    split before length least (← push before length runs run) (rest.drop (run.length - 1))
termination_by xs => xs.length
decreasing_by
  rw [List.length_drop, List.length_cons]
  omega

end Runs

/-- The items of a list in order. -/
def arrange (before : α -> α -> Except ε Bool) (xs : List α) : Except ε (List α) := do
  let runs ← Runs.split before xs.length (leastRunLength xs.length) {} xs
  Runs.finish before runs.threshold runs.pending

end Order
end Filtergraph
