/-!
# Searching for the end of a prefix

How many items at the front of a list satisfy a test, where those that do are thought to come
first.  The list is halved, or leapt through in growing leaps and then halved.  The test may fail;
its first failure is the failure of the search.  Where the items that satisfy the test do not come
first, the answer depends on the items that are looked at.
-/

namespace Filtergraph
namespace Order

/-- Which of the two items in the middle of a list of even length is looked at. -/
inductive Middle where
  | lower
  | upper
  deriving DecidableEq, Repr

/-- The position of the middle of so many items. -/
def Middle.position : Middle -> Nat -> Nat
  | .lower, length => (length - 1) / 2
  | .upper, length => length / 2

/-- Counts the items at the front that satisfy a test by halving the list. -/
def countByHalving (middle : Middle) (test : α -> Except ε Bool) (xs : List α) : Except ε Nat :=
  match half : xs.drop (middle.position xs.length) with
  | [] => .ok 0
  | x :: upper => do
    have lengths : xs.length - middle.position xs.length = upper.length + 1 := by
      simpa using congrArg List.length half
    if ← test x then
      return middle.position xs.length + 1 + (← countByHalving middle test upper)
    else countByHalving middle test (xs.take (middle.position xs.length))
termination_by xs.length
decreasing_by
  · omega
  · rw [List.length_take]
    omega

/-- Counts the items at the front that satisfy a test.  So many items are leapt over, and about
twice as many by the next leap; the items of a leap that goes too far are halved. -/
def countByLeaps (middle : Middle) (test : α -> Except ε Bool) (leap : Nat) (xs : List α) :
    Except ε Nat :=
  match landing : xs.drop leap with
  | [] => countByHalving middle test xs
  | x :: further => do
    have lengths : xs.length - leap = further.length + 1 := by
      simpa using congrArg List.length landing
    if ← test x then return leap + 1 + (← countByLeaps middle test (2 * leap + 1) further)
    else countByHalving middle test (xs.take leap)
termination_by xs.length
decreasing_by omega

/-- Counts the items at the front that satisfy a test by leaps that start at the first item. -/
def gallop (middle : Middle) (test : α -> Except ε Bool) : List α -> Except ε Nat
  | [] => .ok 0
  | x :: rest => do
    if ← test x then return 1 + (← countByLeaps middle test 0 rest) else return 0

end Order
end Filtergraph
