import Filtergraph.Text.Printable

/-!
# Quoted text

A text is shown between single quotes, or between double quotes when it holds single quotes and
no double ones.  Inside, the quote in use and the backslash take a backslash in front, the line
feed, the carriage return and the tab have short forms, and any other unprintable character is
written by its code point in two, four or eight hexadecimal digits.
-/

namespace Filtergraph
namespace Text

/-- The lower-case hexadecimal digits of a number, filled with zeros to a width. -/
def hexadecimal (width n : Nat) : List Char :=
  let digits := Nat.toDigits 16 n
  List.replicate (width - digits.length) '0' ++ digits

/-- The shortest of the three numbered forms that holds a code point. -/
def numberedEscape (n : Nat) : List Char :=
  if n < 0x100 then '\\' :: 'x' :: hexadecimal 2 n
  else if n < 0x10000 then '\\' :: 'u' :: hexadecimal 4 n
  else '\\' :: 'U' :: hexadecimal 8 n

/-- The written form of one character between the given quotes. -/
def escapeChar (quote c : Char) : List Char :=
  if c = quote || c = '\\' then ['\\', c]
  else if c = '\n' then ['\\', 'n']
  else if c = '\r' then ['\\', 'r']
  else if c = '\t' then ['\\', 't']
  else if isPrintable c then [c]
  else numberedEscape c.toNat

/-- Single quotes, unless the text holds single quotes and no double ones. -/
def chooseQuote (cs : List Char) : Char :=
  if cs.contains '\'' && !cs.contains '"' then '"' else '\''

/-- The text between quotes. -/
def quoted (s : String) : String :=
  let quote := chooseQuote s.toList
  String.ofList (quote :: s.toList.flatMap (escapeChar quote) ++ [quote])

end Text
end Filtergraph
