import Filtergraph.Number.Double
import Filtergraph.Text.Blank
import Filtergraph.Text.Digit

/-!
# Reading doubles

A decimal literal is a sign, digits with at most one point and at least one digit, and an
exponent.  Besides literals there are words for infinity and the undefined number.  Two readers
build on that: the strict one of validation and the lenient one of durations, which knows the
digits of all scripts.  They also differ in where there may be underscores.
-/

namespace Filtergraph
namespace Double

/-- Splits off a sign, which is true for a minus. -/
def takeSign : List Char -> Bool × List Char
  | '-' :: rest => (true, rest)
  | '+' :: rest => (false, rest)
  | cs => (false, cs)

/-- The exponent of a literal after its mark: a sign and only digits, at least one. -/
def readExponent? (cs : List Char) : Option Int :=
  let (negative, digits) := takeSign cs
  if digits ≠ [] && digits.all Char.isDigit then
    let size : Int := Text.numeral Text.asciiValue digits
    some (if negative then -size else size)
  else none

/-- Splits off a point and the digits after it, if there is a point. -/
def takeFraction : List Char -> List Char × List Char
  | '.' :: rest => (rest.takeWhile Char.isDigit, rest.dropWhile Char.isDigit)
  | cs => ([], cs)

/-- The digits and the power of ten of a literal without sign. -/
def readUnsigned? (cs : List Char) : Option (Nat × Int) :=
  let whole := cs.takeWhile Char.isDigit
  let (fraction, rest) := takeFraction (cs.dropWhile Char.isDigit)
  if whole = [] && fraction = [] then none
  else
    let digits := Text.numeral Text.asciiValue (whole ++ fraction)
    match rest with
    | [] => some (digits, -(fraction.length : Int))
    | mark :: rest =>
      if mark = 'e' || mark = 'E' then
        (readExponent? rest).map fun power => (digits, power - fraction.length)
      else none

/-- Reads a literal or one of the words, letters of either case. -/
def readPlain? (cs : List Char) : Option Double :=
  let (negative, rest) := takeSign cs
  let word := String.ofList (rest.map Char.toLower)
  if word = "inf" || word = "infinity" then some (.infinite negative)
  else if word = "nan" then some .undefined
  else (readUnsigned? rest).map fun (digits, power) => ofDecimal negative digits power

/-- Two underscores stand side by side. -/
def hasDoubledUnderscore : List Char -> Bool
  | '_' :: '_' :: _ => true
  | _ :: rest => hasDoubledUnderscore rest
  | [] => false

/-- Drops single underscores, which may stand anywhere but at the ends. -/
def ungrouped? (cs : List Char) : Option (List Char) :=
  if cs.head? = some '_' || cs.getLast? = some '_' || hasDoubledUnderscore cs then none
  else some (cs.filter (· ≠ '_'))

/-- Reads a number for validation.  White space at the ends is dropped, or else single underscores
between other characters, but not both. -/
def readValidated? (s : String) : Option Double :=
  readPlain? (Text.trim Text.isWhiteSpace s.toList) <|> (ungrouped? s.toList).bind readPlain?

/-- Every underscore has a digit before and behind it; `before` tells whether a digit precedes. -/
def underscoresGroupDigits (before : Bool) : List Char -> Bool
  | [] => true
  | ['_'] => false
  | '_' :: c :: rest => before && c.isDigit && underscoresGroupDigits true rest
  | c :: rest => underscoresGroupDigits c.isDigit rest

/-- The plain form of a character of any script: digits become `0` to `9` and white
space becomes a blank. -/
def plainChar (c : Char) : Char :=
  match Text.digitValue? c with
  | some value => Char.ofNat (48 + value)
  | none => if Text.isWhiteSpace c then ' ' else c

/-- Reads a number in any script: white space at the ends is dropped, and so are underscores
between two digits. -/
def readLenient? (s : String) : Option Double :=
  let cs := Text.trim (· == ' ') (s.toList.map plainChar)
  if underscoresGroupDigits false cs then readPlain? (cs.filter (· ≠ '_')) else none

end Double
end Filtergraph
