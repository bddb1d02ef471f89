import Filtergraph.Failure
import Filtergraph.Text.Blank

/-!
# Release numbers

A release is named by runs of digits with points between them, after an optional `n`; anything
may follow.  Releases are compared component by component, and where one is the beginning of the
other the shorter one is the older.
-/

namespace Filtergraph

/-- A release number, the most significant component first. -/
abbrev Version := List Nat

namespace Version

/-- The runs of digits at the beginning of a text, with single points between them.  The first run
is empty if the text starts with no digit. -/
def runs : List Char -> List (List Char)
  | [] => [[]]
  | c :: rest =>
    if Text.isDigit c then
      match runs rest with
      | run :: more => (c :: run) :: more
      | [] => [[c]]
    else if c = '.' then
      match runs rest with
      | [] :: _ => [[]]
      | more => [] :: more
    else [[]]

/-- Leaves out a leading `n`. -/
def dropMark : List Char -> List Char
  | 'n' :: rest => rest
  | cs => cs

/-- Reads the release number of a text, if it has one. -/
def parse (s : String) : Except TooLong (Option Version) :=
  match runs (dropMark (Text.trim Text.isBlank s.toList)) with
  | [] :: _ => .ok none
  | components => (components.mapM readNumeral).map some

/-- Whether a release is as recent as another one. -/
def atLeast (found required : Version) : Bool :=
  !decide (found < required)

/-- Reads the release number of a value that ought to be a text. -/
def ofValue : Value -> Except Failure (Option Version)
  | .text s => (parse s).mapError fun numeral => .wrongValue (.numeral numeral)
  | value => .error (.wrongAttribute (.absent value.typeName "strip"))

/-- Whether the release that was found is as recent as the one required; unknown if either is no
release number. -/
def compare (found required : Value) : Except Failure (Option Bool) := do
  let found ← ofValue found
  let required ← ofValue required
  return do
    let found ← found
    let required ← required
    return found.atLeast required

end Version
end Filtergraph
