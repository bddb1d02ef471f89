import Filtergraph.Order.Search

/-!
# Merging two runs

Two adjacent runs are merged item by item.  When one of them wins so many times in a row that the
threshold is reached, items are moved in bulk, and the threshold falls as long as that pays and
rises when it does not.  Equal items keep their order.

The shorter run is held while the other one moves, from the front if that is the left one and from
the back otherwise.  Merging from the back is the same as merging the reversed runs from the front,
apart from the item that is taken first and from the run whose last item is left to the end.
-/

namespace Filtergraph
namespace Order

/-- The end at which two runs are merged. -/
inductive End where
  | front
  | back
  deriving DecidableEq, Repr

/-- The item in the middle that a search from an end looks at. -/
def End.middle : End -> Middle
  | .front => .upper
  | .back => .lower

/-- How the next items are moved. -/
inductive Pace where
  /-- One by one; the run that won last and how often it did so in a row. -/
  | single (left : Bool) (wins : Nat)
  /-- Many from the left run, and then one from the right run. -/
  | leftBulk
  /-- Many from the right run, and then one from the left run, after so many from the left. -/
  | rightBulk (moved : Nat)
  deriving DecidableEq, Repr

/-- Moving items in bulk pays if there are so many of them. -/
def bulk : Nat := 7

/-- What is left of a merge when nothing has to be compared any more. -/
def settled? (side : End) (left right : List α) : Option (List α) :=
  match side, left, right with
  | _, [], right => some right
  | _, left, [] => some left
  | .front, [x], right => some (right ++ [x])
  | .back, left, [y] => some (left ++ [y])
  | _, _, _ => none

/-- Whether an item of the left run is moved before an item of the right run. -/
def movesLeft (before : α -> α -> Except ε Bool) (side : End) (x y : α) : Except ε Bool :=
  return (← before y x) == decide (side = .back)

/-- Merges two runs, which are reversed when they are merged from the back.  The result comes with
the threshold that is left. -/
def sweep (before : α -> α -> Except ε Bool) (side : End) (pace : Pace) (threshold : Nat)
    (left right : List α) : Except ε (List α × Nat) :=
  match left, right with
  | [], right => .ok (right, threshold)
  | left, [] => .ok (left, threshold)
  | x :: left, y :: right =>
    match settled? side (x :: left) (y :: right) with
    | some rest => .ok (rest, threshold)
    | none =>
      match pace with
      | .single last wins => do
        let isLeft ← movesLeft before side x y
        let wins := if isLeft == last then wins + 1 else 1
        let pace := if threshold ≤ wins then .leftBulk else .single isLeft wins
        if isLeft then
          let (rest, threshold) ← sweep before side pace threshold left (y :: right)
          return (x :: rest, threshold)
        else
          let (rest, threshold) ← sweep before side pace threshold (x :: left) right
          return (y :: rest, threshold)
      | .leftBulk => do
        let count ← gallop side.middle (fun x => movesLeft before side x y) (x :: left)
        let moved := (x :: left).take count
        match settled? side ((x :: left).drop count) (y :: right) with
        | some rest => return (moved ++ rest, threshold)
        | none =>
          let (rest, threshold) ← sweep before side (.rightBulk count) threshold
            ((x :: left).drop count) right
          return (moved ++ y :: rest, threshold)
      | .rightBulk others => do
        let count ← gallop side.middle (fun y => return !(← movesLeft before side x y))
          (y :: right)
        let moved := (y :: right).take count
        match settled? side (x :: left) ((y :: right).drop count) with
        | some rest => return (moved ++ rest, threshold)
        | none =>
          match settled? side left ((y :: right).drop count) with
          | some rest => return (moved ++ x :: rest, threshold)
          | none =>
            let pays := bulk ≤ others || bulk ≤ count
            let (rest, threshold) ← sweep before side (if pays then .leftBulk else .single true 0)
              (if pays then max 1 (threshold - 1) else threshold + 1) left
              ((y :: right).drop count)
            return (moved ++ x :: rest, threshold)
termination_by left.length + right.length
decreasing_by all_goals simp only [List.length_cons, List.length_drop]; omega

/-- Merges two runs of which each has an item that the other one has to move past. -/
def interleave (before : α -> α -> Except ε Bool) (threshold : Nat) (left right : List α) :
    Except ε (List α × Nat) :=
  if left.length ≤ right.length then do
    let (rest, threshold) ← sweep before .front (.single true 0) threshold left (right.drop 1)
    return (right.take 1 ++ rest, threshold)
  else do
    let (rest, threshold) ← sweep before .back (.single true 0) threshold (left.reverse.drop 1)
      right.reverse
    return ((left.reverse.take 1 ++ rest).reverse, threshold)

/-- Merges two adjacent runs.  Items at the ends that are in place already stay there. -/
def merge (before : α -> α -> Except ε Bool) (threshold : Nat) (left right : List α) :
    Except ε (List α × Nat) :=
  match right with
  | [] => .ok (left, threshold)
  | y :: _ => do
    let inFront ← gallop .upper (fun x => return !(← before y x)) left
    match (left.drop inFront).getLast? with
    | none => return (left ++ right, threshold)
    | some last => do
      let behind ← gallop .lower (fun y => return !(← before y last)) right.reverse
      let moving := right.take (right.length - behind)
      if moving.isEmpty then return (left ++ right, threshold)
      else
        let (merged, threshold) ← interleave before threshold (left.drop inFront) moving
        return (left.take inFront ++ merged ++ right.drop (right.length - behind), threshold)

end Order
end Filtergraph
