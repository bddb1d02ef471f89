/-!
# Decimal digits

The decimal digits of Unicode come in runs of ten, from the digit zero of a script to its digit
nine.  A run is named by the code point of its zero, so that one short table serves to tell
digits from other characters and to read their values.
-/

namespace Filtergraph
namespace Text

/-- Code points of the zeros of the decimal digits of Unicode 14, in ascending order.  Later
versions of Unicode have more of them. -/
def digitZeros : List Nat := [
  0x0030, 0x0660, 0x06F0, 0x07C0, 0x0966, 0x09E6, 0x0A66, 0x0AE6, 0x0B66, 0x0BE6, 0x0C66,
  0x0CE6, 0x0D66, 0x0DE6, 0x0E50, 0x0ED0, 0x0F20, 0x1040, 0x1090, 0x17E0, 0x1810, 0x1946,
  0x19D0, 0x1A80, 0x1A90, 0x1B50, 0x1BB0, 0x1C40, 0x1C50, 0xA620, 0xA8D0, 0xA900, 0xA9D0,
  0xA9F0, 0xAA50, 0xABF0, 0xFF10, 0x104A0, 0x10D30, 0x11066, 0x110F0, 0x11136, 0x111D0, 0x112F0,
  0x11450, 0x114D0, 0x11650, 0x116C0, 0x11730, 0x118E0, 0x11950, 0x11C50, 0x11D50, 0x11DA0,
  0x16A60, 0x16AC0, 0x16B50, 0x1D7CE, 0x1D7D8, 0x1D7E2, 0x1D7EC, 0x1D7F6, 0x1E140, 0x1E2F0,
  0x1E950, 0x1FBF0]

/-- The value of a decimal digit of any script. -/
def digitValue? (c : Char) : Option Nat :=
  (digitZeros.find? fun start => start ≤ c.toNat && c.toNat < start + 10).map (c.toNat - ·)

/-- A character is a digit when it is a decimal digit of some script. -/
def isDigit (c : Char) : Bool :=
  (digitValue? c).isSome

/-- The value of one of the digits `0` to `9`; other characters count as zero. -/
def asciiValue (c : Char) : Nat :=
  if c.isDigit then c.toNat - 48 else 0

/-- The number written by a run of digits, the most significant first. -/
def numeral (value : Char -> Nat) (digits : List Char) : Nat :=
  digits.foldl (fun total c => 10 * total + value c) 0

@[simp] theorem numeral_nil (value : Char -> Nat) : numeral value [] = 0 := rfl

/-- A further digit multiplies by ten and adds. -/
@[simp] theorem numeral_concat (value : Char -> Nat) (digits : List Char) (c : Char) :
    numeral value (digits ++ [c]) = 10 * numeral value digits + value c := by
  simp [numeral]

end Text
end Filtergraph
