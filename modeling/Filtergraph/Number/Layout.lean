import Filtergraph.Number.Shortest

/-!
# Writing doubles

A layout says where positional notation ends and how an exponent looks.  Arguments and answers
use one layout: positional from `10 ^ -4` up to below `10 ^ 16`, always with a point, and outside
of that range an exponent with a sign and at least two digits.
-/

namespace Filtergraph

/-- How the digits of a double are laid out. -/
structure Layout where
  /-- The least exponent of the first digit that is written positionally. -/
  positionalFrom : Int
  /-- The least exponent of the first digit above those written positionally. -/
  positionalBelow : Int
  /-- What a positional integer is given as its fraction. -/
  emptyFraction : String
  /-- The mark in front of an exponent. -/
  exponentMark : String
  /-- The least number of digits of an exponent. -/
  exponentWidth : Nat
  /-- The text of the undefined number. -/
  undefinedText : String
  /-- The text of positive infinity. -/
  infiniteText : String

namespace Layout

/-- The layout of all numbers in arguments. -/
def arguments : Layout where
  positionalFrom := -4
  positionalBelow := 16
  emptyFraction := ".0"
  exponentMark := "e"
  exponentWidth := 2
  undefinedText := "nan"
  infiniteText := "inf"

/-- So many zeros. -/
def zeros (count : Nat) : String :=
  String.ofList (List.replicate count '0')

/-- Digits with a point after the first `whole` of them. -/
def positional (layout : Layout) (digits : String) (whole : Int) : String :=
  if whole ≤ 0 then "0." ++ zeros (-whole).toNat ++ digits
  else if (digits.length : Int) ≤ whole then
    digits ++ zeros (whole - digits.length).toNat ++ layout.emptyFraction
  else
    String.ofList (digits.toList.take whole.toNat) ++ "." ++
      String.ofList (digits.toList.drop whole.toNat)

/-- Digits with a point after the first and the exponent of the first. -/
def scientific (layout : Layout) (digits : String) (order : Int) : String :=
  let fraction := String.ofList (digits.toList.drop 1)
  let power := toString order.natAbs
  String.ofList (digits.toList.take 1) ++ (if fraction = "" then "" else "." ++ fraction) ++
    layout.exponentMark ++ (if order < 0 then "-" else "+") ++
    zeros (layout.exponentWidth - power.length) ++ power

/-- The text of a decimal. -/
def decimal (layout : Layout) (d : Decimal) : String :=
  let digits := toString d.digits
  let whole : Int := digits.length + d.exponent
  if layout.positionalFrom ≤ whole - 1 ∧ whole - 1 < layout.positionalBelow then
    layout.positional digits whole
  else layout.scientific digits (whole - 1)

/-- The text of a double. -/
def double (layout : Layout) : Double -> String
  | .undefined => layout.undefinedText
  | .infinite negative => (if negative then "-" else "") ++ layout.infiniteText
  | .finite negative mantissa exponent =>
    (if negative then "-" else "") ++
      layout.decimal (if mantissa = 0 then ⟨0, 0⟩ else shortest mantissa exponent)

end Layout

/-- The text of a double in an argument. -/
def Double.text (x : Double) : String :=
  Layout.arguments.double x

end Filtergraph
