import Filtergraph.Filter.Basic
import Filtergraph.Filter.Report
import Filtergraph.Order.Arrange
import Filtergraph.Version

/-!
# Compiling filters

Filters are ordered by priority, checked against the release of the tool if one is given, and
their contributions joined in that order.  The check comes before anything is contributed.  A
filter that needs a newer release leaves a warning, or is a failure if the check is strict; where
the releases cannot be compared, a note says so and the filter passes.
-/

namespace Filtergraph
namespace Filter

/-- The priority of a filter as an integer, if it is one or a truth value. -/
def integerPriority? (filter : Filter) : Option Int :=
  match filter.priority with
  | .ok value =>
    match value.number? with
    | some (.int n) => some n
    | _ => none
  | .error _ => none

/-- The priority of the first filter is at most that of the second; what is no integer counts as
zero. -/
def precedes (first second : Filter) : Bool :=
  decide (first.integerPriority?.getD 0 ≤ second.integerPriority?.getD 0)

/-- Whether an item comes before another one by the keys that go with them.  A list is not before
itself, whatever is in it. -/
def before [BEq α] (first second : α × Value) : Except Failure Bool :=
  if first.2.isList && first.1 == second.1 then .ok false
  else (first.2.before second.2).mapError fun types => .wrongType (.priorities types)

/-- Items that stand for filters, by ascending priority; those of equal priority keep their
order, and equal items stand for one and the same filter.  Integers are ordered as such.  Other
priorities are compared one by one, and the first two that have no order are a failure. -/
def arrange [BEq α] (filterOf : α -> Filter) (items : List α) : Except Failure (List α) :=
  if items.all fun item => (filterOf item).integerPriority?.isSome then
    .ok (items.mergeSort fun first second => precedes (filterOf first) (filterOf second))
  else do
    let keyed ← items.mapM fun item => return (item, ← (filterOf item).priority)
    return (← Order.arrange before keyed).map Prod.fst

/-- The note on a filter whose release cannot be compared with that of the tool.  Only texts get as
far as being compared. -/
def incomparableNote (filter : Filter) (tool : Value) : Note :=
  ⟨.debug, "Cannot compare FFmpeg " ++ tool.characters ++ " with " ++ filter.minimum.characters ++
    " for filter '" ++ filter.name.plain ++ "'"⟩

/-- The failure of a filter that needs a newer release. -/
def outdated (filter : Filter) (tool : Value) : Failure :=
  .toolTooOld filter.name.plain filter.minimum.characters tool.characters

/-- Checks one filter against the release of the tool. -/
def checkRelease (tool : Value) (strict : Bool) (filter : Filter) : Report Unit :=
  match Version.compare tool filter.minimum with
  | .error failure => .ofExcept (.error failure)
  | .ok none => ⟨[filter.incomparableNote tool], .ok ()⟩
  | .ok (some true) => pure ()
  | .ok (some false) =>
    if strict then .ofExcept (.error (filter.outdated tool))
    else .note .warning (filter.outdated tool).message

/-- Checks filters against the release of the tool, one after another. -/
def checkReleases (tool : Value) (strict : Bool) : List Filter -> Report Unit
  | [] => pure ()
  | filter :: rest =>
    (filter.checkRelease tool strict).andThen fun _ => checkReleases tool strict rest

/-- Items that stand for filters, in the order in which the filters are emitted.  The filters are
checked if a release is given. -/
def ordered [BEq α] (filterOf : α -> Filter) (items : List α) (tool : Value) (strict : Bool) :
    Report (List α) := do
  let inOrder ← Report.ofExcept (arrange filterOf items)
  if tool.isTrue then checkReleases tool strict (inOrder.map filterOf)
  return inOrder

/-- Joins what filters contribute.  The first that fails or contributes nothing is a failure. -/
def gather (contribute : Filter -> Contribution) : List Filter -> Except Failure (List Argument)
  | [] => .ok []
  | filter :: rest => do
    match ← contribute filter with
    | some arguments => return arguments ++ (← gather contribute rest)
    | none => .error (.wrongType (.items Value.null.typeName))

/-- The fragments of filters in one list of arguments. -/
def compile [BEq α] (filterOf : α -> Filter) (items : List α) (format : Option Format)
    (tool : Value) (strict : Bool) : Report (List Argument) := do
  let inOrder ← ordered filterOf items tool strict
  Report.ofExcept (gather (fun filter => filter.fragment format) (inOrder.map filterOf))

end Filter

/-- The words of a command.  The first argument that is no text is a failure, with its position. -/
def words (position : Nat) : List Argument -> Except Failure (List String)
  | [] => .ok []
  | .text s :: rest => (words (position + 1) rest).map (s :: ·)
  | value :: _ => .error (.wrongType (.word position value.typeName))

/-- A command as one line of text. -/
def commandLine (arguments : List Argument) : Except Failure String :=
  (words 0 arguments).map (" ".intercalate ·)

end Filtergraph
