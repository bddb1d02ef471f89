import Filtergraph.Data.Numeral
import Filtergraph.Number.Reading
import Filtergraph.Schema.Verdict

/-!
# Integers in the form of texts

The text of an integer is a sign and digits, which single underscores may group, and a point may
follow with nothing but zeros.  Zeros at the front are dropped together with all underscores among
them; a minus may stand behind such zeros too.  What is left has a limit on its digits.  A text that
exceeds the limit right from its beginning is a fault of its own; elsewhere, too many digits make a
text as unreadable as anything else.
-/

namespace Filtergraph
namespace Schema

/-- Drops zeros at the front and the underscores among them.  One character stays if a point or
nothing at all follows; other texts do not start like an integer. -/
def dropLeadingZeros : List Char -> Option (List Char)
  | '0' :: rest =>
    let filling := rest.takeWhile fun c => c == '0' || c == '_'
    match rest.dropWhile fun c => c == '0' || c == '_' with
    | [] => some [filling.getLast?.getD '0']
    | c :: digits =>
      if c = '.' then some (filling.getLast?.getD '0' :: c :: digits)
      else if c = '-' || c.isDigit then some (c :: digits)
      else none
  | c :: digits => if c.isDigit then some (c :: digits) else none
  | [] => none

/-- Drops a point that has zeros, and nothing but zeros, behind it. -/
def dropNullFraction (cs : List Char) : List Char :=
  match cs.dropWhile (· ≠ '.') with
  | '.' :: zero :: rest =>
    if (zero :: rest).all (· == '0') then cs.takeWhile (· ≠ '.') else cs
  | _ => cs

/-- The number that digits write, unless they are too many or begin with a zero that others
follow. -/
def readDigits? (digits : List Char) : Option Int :=
  if digits = [] || !digits.all Char.isDigit then none
  else if digits.head? = some '0' && digits ≠ ['0'] then none
  else (readNumeral digits).toOption.map Int.ofNat

/-- Reads an integer whose zeros at the front have been dropped, which may have bared a minus. -/
def readBared? (negative : Bool) (cs : List Char) : Option Int :=
  let whole := dropNullFraction cs
  match (Double.ungrouped? whole).getD whole with
  | '-' :: digits => if negative then none else (readDigits? digits).map (-·)
  | digits => (readDigits? digits).map fun n => if negative then -n else n

/-- Reads an integer from a text, around which there may be white space. -/
def readInteger? (s : String) : Option Int := do
  let (negative, cs) := Double.takeSign (Text.trim Text.isWhiteSpace s.toList)
  readBared? negative (← dropLeadingZeros cs)

/-- A text begins with too many digits for an integer, of which the first is not a zero.  A minus
may stand in front of them, and anything behind. -/
def beginsTooLong (s : String) : Bool :=
  let cs := s.toList
  let digits := (if cs.head? = some '-' then cs.tail else cs).takeWhile Char.isDigit
  digits.head? ≠ some '0' && digitLimit < digits.length

/-- Reads an integer from a text. -/
def integerOfText (s : String) : Verdict Int :=
  if beginsTooLong s then .fault .integerTooLong
  else
    match readInteger? s with
    | some n => .accepted n
    | none => .fault .unreadableInteger

end Schema
end Filtergraph
